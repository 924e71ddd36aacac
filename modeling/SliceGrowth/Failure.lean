import SliceGrowth.Analysis.CheckId
import SliceGrowth.Analysis.Unsupported
import SliceGrowth.Package.Problem

/-!
Why work ends early. A failure is about the input and is told to the user; a defect is an assumption of
the analysis that an input breaks, and is not.
-/
namespace SliceGrowth

/-- What was seen when an assumption broke. -/
inductive Evidence where
  | text (value : String)
  | number (value : Int)

inductive Defect where
  | broken (assumption : String) (evidence : List (String × Evidence))
  | emptyDeclaration
  | notUtf8

/-- What is wrong with a configuration file. -/
inductive ConfigCause where
  | unreadable (cause : ReadError)
  | malformed (detail : String)

inductive Failure where
  | load (problems : List Problem)
  | parse (position : Position) (detail : String)
  | unsupported (construct : Analysis.Unsupported)
  | unknownCheck (name : String)
  | config (path : SlashPath) (cause : ConfigCause)
  | whileChecking (cause : Failure)
  | defect (defect : Defect)

namespace Defect

def brokenMessage (assumption : String) : String :=
  if assumption.isEmpty then "never() marker reached" else assumption

def message : Defect → String
  | broken assumption _ => brokenMessage assumption
  | emptyDeclaration => "declaration without text"
  | notUtf8 => "text that is not UTF-8"

end Defect

def ConfigCause.message : ConfigCause → String
  | unreadable cause => cause.message
  | malformed detail => detail

namespace Failure

def message : Failure → String
  | load problems => "failed to load package: " ++ ", ".intercalate (problems.map Problem.message)
  | parse position detail => "failed to parse file: " ++ position.text ++ ": " ++ detail
  | unsupported construct => construct.message
  | unknownCheck name =>
    let known := ", ".intercalate (Analysis.CheckId.all.map Analysis.CheckId.text)
    "unknown check " ++ Text.quote name ++ " (known checks: " ++ known ++ ")"
  | config path cause => "failed to read config " ++ path.text ++ ": " ++ cause.message
  | whileChecking cause => "encountered error while checking package: " ++ cause.message
  | defect d => d.message

def isDefect : Failure → Bool
  | defect _ => true
  | _ => false

end Failure

end SliceGrowth
