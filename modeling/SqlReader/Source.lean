set_option autoImplicit false

namespace SqlReader

structure Source where
  name : String
  text : String

def defaultName : String := "shell"

def Source.ofText (name? : Option String) (text : String) : Source :=
  ⟨name?.getD defaultName, text⟩

end SqlReader
