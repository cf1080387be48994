import StreamSource.Manifest.Basic
import StreamSource.Names
import StreamSource.Settings.Basic
import StreamSource.Text.Casing
import StreamSource.Text.Cut

/-! The catalog of the plugins that come with the library. A query selects the entries
that have it in their name or description, letters in either case being alike, and a
listing tells which of them the settings disable. -/

namespace StreamSource.Catalog

def entry (kind : PluginKind) (name description : String) (schemes required : List String) :
    PluginManifest :=
  { name := name, version := "0.1.0", description := description, kind := kind,
    author := some "urlsplitter Contributors", schemes := schemes,
    requiredParameters := required }

def builtin : List PluginManifest :=
  [ entry .protocol "http" "HTTP/1.x progressive download" ["http", "https"] [],
    entry .protocol "mshs" "Microsoft smooth streaming fragment fetcher" ["http", "https"]
      [Names.mshsBaseUrl, Names.mshsManifest],
    entry .protocol "rtmp" "RTMP live and on-demand streams"
      ["rtmp", "rtmpt", "rtmpe", "rtmps"] [],
    entry .protocol "rtsp" "RTSP session with RTP transport" ["rtsp"] [],
    entry .protocol "udp" "UDP and RTP multicast reception" ["udp", "rtp"] [],
    entry .protocol "file" "Local file access" ["file"] [],
    entry .parser "mshs-manifest" "Smooth streaming client manifest parser" []
      [Names.mshsManifest],
    entry .parser "f4m" "Adobe HTTP dynamic streaming manifest parser" [] [],
    entry .parser "m3u8" "HTTP live streaming playlist parser" [] [] ]

/-- Whether the query stands in the name or the description. -/
def isMatch (query : String) (m : PluginManifest) : Bool :=
  Text.occursIn (Text.smallText query) (Text.smallText m.name)
    || Text.occursIn (Text.smallText query) (Text.smallText m.description)

def search (query : String) : List PluginManifest := builtin.filter (isMatch query)

structure Listing where
  manifest : PluginManifest
  isDisabled : Bool
  deriving DecidableEq

/-- The entries that match a query, or all, with the state that the settings give them. -/
def listings (s : Settings) (query : Option String) : List Listing :=
  ((query.map search).getD builtin).map fun m => ⟨m, s.plugins.disabled.contains m.name⟩

end StreamSource.Catalog
