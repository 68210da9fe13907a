import CodeAtlas.Failure
import CodeAtlas.FileSystem.Basic
import CodeAtlas.Log

namespace CodeAtlas

structure Acted (α : Type) where
  value : Except Failure α
  files : FileSystem
  records : List LogRecord := []
  output : String := ""

/-- A step of a run. It may change files, write records and print; what it did before it failed
stays done. -/
def Act (α : Type) := FileSystem → Acted α

namespace Act

variable {α : Type}

instance : Monad Act where
  pure a := fun fs => { value := .ok a, files := fs }
  bind x f := fun fs =>
    let first := x fs
    match first.value with
    | .error e => { first with value := .error e }
    | .ok a =>
      let second := f a first.files
      { second with
        records := first.records ++ second.records
        output := first.output ++ second.output }

def files : Act FileSystem :=
  fun fs => { value := .ok fs, files := fs }

def print (text : String) : Act Unit :=
  fun fs => { value := .ok (), files := fs, output := text }

def note (level : Level) (message : String) : Act Unit :=
  fun fs => { value := .ok (), files := fs, records := [⟨level, "codeskel", message⟩] }

def ofExcept (r : Except Failure α) : Act α :=
  fun fs => { value := r, files := fs }

def fail (f : Failure) : Act α :=
  ofExcept (.error f)

def ofLogged (x : Logged α) : Act α :=
  fun fs => { value := .ok x.value, files := fs, records := x.records }

/-- Changes the files, or leaves them as they are and fails. -/
def change (f : FileSystem → Except Failure FileSystem) : Act Unit := fun fs =>
  match f fs with
  | .ok fs => { value := .ok (), files := fs }
  | .error e => { value := .error e, files := fs }

end Act

end CodeAtlas
