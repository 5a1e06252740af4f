import AlertRelay.Charset.Decoder

/-!
# Charsets and their names

A charset has a name of its own and other names. All of them are normal forms: small letters and
digits with one underscore between words. `NamedCharset.normalName` brings a name as it is written
into this form, and `lookUp?` finds the charset of a name among others; a dot in another name counts
as an underscore.
-/

namespace AlertRelay

structure NamedCharset where
  name : String
  aliases : List String
  decode? : Decoder

namespace NamedCharset

/-- A code page: one byte for each character, by a table of the bytes from `first` on. -/
def page (name : String) (aliases : List String) (first : Nat) (table : String) : NamedCharset :=
  ⟨name, aliases, (Charset.ofTable first table).decode?⟩

def ofCharset {σ : Type} (name : String) (aliases : List String) (c : Charset σ) : NamedCharset :=
  ⟨name, aliases, c.decode?⟩

/-- The words of a name, given in reverse after the characters before them: runs of letters, digits
and dots, with one underscore between two. -/
def normalFrom (before : List Char) : List Char → List Char
  | [] => before.reverse
  | c :: cs =>
    if c.isAlphanum || c = '.' then normalFrom (c.toLower :: before) cs
    else
      match cs with
      | [] => before.reverse
      | d :: _ =>
        if (d.isAlphanum || d = '.') && !before.isEmpty then normalFrom ('_' :: before) cs
        else normalFrom before cs

def normalName (cs : List Char) : String := String.ofList (normalFrom [] cs)

def undotted (name : String) : String :=
  String.ofList (name.toList.map fun c => if c = '.' then '_' else c)

def lookUp? (charsets : List NamedCharset) (name : String) : Option NamedCharset :=
  match charsets.find? (·.aliases.contains name) with
  | some c => some c
  | none =>
    match charsets.find? (·.aliases.contains (undotted name)) with
    | some c => some c
    | none => charsets.find? (·.name == name)

end NamedCharset

end AlertRelay
