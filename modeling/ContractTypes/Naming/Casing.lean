import ContractTypes.Text.Case

/-!
The three casings of a declared name.

The pascal form joins the parts of a name between its underscores, each with a capital at its head;
an empty part leaves an underscore.  The camel form is the pascal form with a small letter at its
head.  The snake form puts an underscore before each capital letter of ASCII but one at the head,
and makes these letters small.
-/

namespace ContractTypes.Naming

def capitalized : Text → Text
  | [] => ['_']
  | point :: rest => point.capital ++ rest

def pascal (name : Text) : Text := (name.splitAt '_').flatMap capitalized

def uncapitalized : Text → Text
  | [] => []
  | point :: rest => point.small ++ rest

def camel (name : Text) : Text := uncapitalized (pascal name)

def smallLetter (point : CodePoint) : CodePoint :=
  if point.isCapital then point.moved 32 else point

def snakeStep (point : CodePoint) : Text :=
  if point.isCapital then ['_', smallLetter point] else [point]

def snake : Text → Text
  | [] => []
  | point :: rest => smallLetter point :: rest.flatMap snakeStep

end ContractTypes.Naming
