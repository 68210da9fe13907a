import CodeAtlas.Language.Python
import CodeAtlas.Language.JavaScript
import CodeAtlas.Language.TypeScript
import CodeAtlas.Language.Java
import CodeAtlas.Language.Rust

namespace CodeAtlas

/-- The table versions that the parser reads. -/
def Language.leastVersion : Nat := 13
def Language.greatestVersion : Nat := 15

/-- A table version that the parser does not read. -/
structure ForeignVersion where
  number : Nat
  outside : number < Language.leastVersion ∨ Language.greatestVersion < number
deriving DecidableEq

/-- The version of a number; the numbers of those that are read stand for the first of all. -/
def ForeignVersion.ofNat (n : Nat) : ForeignVersion :=
  if outside : n < Language.leastVersion ∨ Language.greatestVersion < n then ⟨n, outside⟩ else ⟨0, by decide⟩

instance : Coe Nat ForeignVersion :=
  ⟨.ofNat⟩

inductive Language where
  | python
  | javascript
  | typescript
  | tsx
  | java
  | rust
  /-- A language of which no more is known than the version of its tables. -/
  | foreign (version : ForeignVersion)
deriving DecidableEq

namespace Language

/-- The grammar of a language, or why it cannot be had. -/
def load : Language → Except String Grammar
  | python => .ok Python.grammar.get
  | javascript => .ok JavaScript.grammar.get
  | typescript => .ok TypeScript.plain.get
  | tsx => .ok TypeScript.withMarkup.get
  | java => .ok Java.grammar.get
  | rust => .ok Rust.grammar.get
  | foreign version =>
    .error ("Incompatible language version " ++ Nat.repr version.number ++ ". Expected minimum "
      ++ Nat.repr leastVersion ++ ", maximum " ++ Nat.repr greatestVersion)

end Language

end CodeAtlas
