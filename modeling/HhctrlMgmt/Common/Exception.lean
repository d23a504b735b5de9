import Mathlib.Data.List.Basic

namespace HhctrlMgmt

-- A std::string is the list of its bytes.
abbrev Bytes := List UInt8

-- The bytes of an ASCII literal.
def ascii (text : String) : Bytes :=
  text.toList.map fun c => c.toNat.toUInt8

-- How a function of the program can end without a result. Dereferencing an
-- empty std::optional or a null pointer is undefined behaviour in C++ and no
-- exception; each gets a constructor of its own.
inductive Exn where
  | runtimeError (what : String)
  | invalidArgument (what : String)
  | rangeError (what : String)
  | systemError (what : String)
  | emptyOptional
  | nullPointer
deriving DecidableEq, Repr

-- Something that is thrown, and that main catches.
def Exn.isException : Exn → Bool
  | .emptyOptional | .nullPointer => false
  | _ => true

end HhctrlMgmt
