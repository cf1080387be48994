/-! The names of the parameters that the settings and the plugins share. -/

namespace StreamSource.Names

def url := "Url"
def httpUrl := "HttpUrl"
def httpReferer := "HttpReferer"
def httpUserAgent := "HttpUserAgent"
def httpCookie := "HttpCookie"
def httpVersion := "HttpVersion"
def httpIgnoreContentLength := "HttpIgnoreContentLength"
def httpOpenConnectionTimeout := "HttpOpenConnectionTimeout"
def httpOpenConnectionSleepTime := "HttpOpenConnectionSleepTime"
def httpTotalReopenConnectionTimeout := "HttpTotalReopenConnectionTimeout"
def httpServerAuthenticate := "HttpServerAuthenticate"
def httpServerUserName := "HttpServerUserName"
def httpServerPassword := "HttpServerPassword"
def mshsBaseUrl := "MshsBaseUrl"
def mshsManifest := "MshsManifest"
def memoryFailOpen := "MemoryFailOpen"

/-- The well-known names, in the order in which they are documented. -/
def wellKnown : List String :=
  [url, httpUrl, httpReferer, httpUserAgent, httpCookie, httpVersion, httpIgnoreContentLength,
    httpOpenConnectionTimeout, httpOpenConnectionSleepTime, httpTotalReopenConnectionTimeout,
    httpServerAuthenticate, httpServerUserName, httpServerPassword, mshsBaseUrl, mshsManifest]

end StreamSource.Names
