import AlertRelay.Charset.Unicode
import AlertRelay.Charset.Iso8859
import AlertRelay.Charset.Windows
import AlertRelay.Charset.Dos
import AlertRelay.Charset.Macintosh
import AlertRelay.Charset.Ebcdic
import AlertRelay.Charset.Iso2022

/-!
# All charsets

The charsets in which the text of a header may be encoded, and how they are found by a name.
-/

namespace AlertRelay.NamedCharset

def all : List NamedCharset :=
  unicodeCharsets ++ iso8859Pages ++ windowsPages ++ dosPages ++ macintoshPages ++ ebcdicPages ++
    japaneseCharsets ++ chineseCharsets ++ koreanCharsets ++ iso2022Charsets

def find? (name : List Char) : Option NamedCharset := lookUp? all (normalName name)

end AlertRelay.NamedCharset
