/-! JSON values. A numeral without point or exponent is an integer, unless it is
`-0`; any other numeral is kept as it is written. Members keep their order. -/

namespace StreamSource

inductive Json
  | null
  | boolean (b : Bool)
  | integer (n : Int)
  | real (numeral : List Char)
  | text (s : String)
  | array (items : List Json)
  | object (members : List (String × Json))

end StreamSource
