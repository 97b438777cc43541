import WorkspaceLint.Fault.Basic

/-!
# Faults of calls

A call that does not give a function the arguments it asks for ends in a fault that names the
function and says what is missing or too much.
-/

namespace WorkspaceLint.Fault

/-- Quoted names joined as in a sentence. -/
def enumeration : List String → String
  | [] => ""
  | [name] => Text.quoted name
  | [first, second] => Text.quoted first ++ " and " ++ Text.quoted second
  | names =>
    ", ".intercalate (names.dropLast.map Text.quoted) ++ ", and "
      ++ Text.quoted (names.getLast?.getD "")

/-- The fault of calling a function without arguments that it needs for parameters of a kind. -/
def missingArguments (function kind : String) (names : List String) : Fault :=
  .withMessage "TypeError" <| function ++ "() missing " ++ toString names.length ++ " required "
    ++ kind ++ (if names.length = 1 then " argument: " else " arguments: ") ++ enumeration names

/-- The fault of calling a function with more arguments than it takes. -/
def surplusArguments (function : String) (taken given : Nat) : Fault :=
  .withMessage "TypeError" <| function ++ "() takes " ++ toString taken ++ " positional argument"
    ++ (if taken = 1 then "" else "s") ++ " but " ++ toString given
    ++ (if given = 1 then " was" else " were") ++ " given"

/-- The fault of calling a function with an argument for a parameter that it does not have. -/
def unknownParameter (function name : String) : Fault :=
  .withMessage "TypeError"
    (function ++ "() got an unexpected keyword argument " ++ Text.quoted name)

end WorkspaceLint.Fault
