import PackageDoc.Failure

/-! # Responses

What a command says and how it ends. -/
set_option autoImplicit false

namespace PackageDoc.Console

/-- Lines, each ended by a line feed. -/
def lines (texts : List String) : String := String.join (texts.map (· ++ "\n"))

inductive Ending where
  /-- The command stopped, with a code and what it wrote about problems. -/
  | exit (code : Nat) (problems : String)
  | failed (failure : Failure)
  /-- The arguments were refused. -/
  | refused
  deriving DecidableEq, Repr

structure Response where
  output : String
  ending : Ending
  deriving DecidableEq, Repr

namespace Response

def success (output : String) : Response := ⟨output, .exit 0 ""⟩

def failed (failure : Failure) : Response := ⟨"", .failed failure⟩

def refused : Response := ⟨"", .refused⟩

/-- A command that breaks off where it should say something that it cannot say.  Of its complaint
only the reason is kept. -/
def brokenOff (reason : String) : Response := ⟨"", .exit 101 (lines [reason])⟩

/-- The code that the surroundings see. -/
def code (response : Response) : Nat :=
  match response.ending with
  | .exit code _ => code
  | .failed _ | .refused => 2

/-- Says something before everything else about problems. -/
def precede (response : Response) (notice : String) : Response :=
  match response.ending with
  | .exit code problems => { response with ending := .exit code (notice ++ problems) }
  | _ => response

end Response
end PackageDoc.Console
