import SliceGrowth.Build.Constraint
import SliceGrowth.FileTree

/-!
What can be wrong with a package before it is checked.
-/
namespace SliceGrowth

inductive Problem where
  | unreadable (path : SlashPath) (cause : ReadError)
  | badConstraint (path : SlashPath) (error : Build.ConstraintError)
  | noPackageClause (path : SlashPath)
  /-- Package names with the first file that has each, in order of appearance. -/
  | mixedPackages (found : List (String × SlashPath)) (directory : SlashPath)
  | noFiles (directory : SlashPath)
  | allExcluded (directory : SlashPath)
  | noDirectory (path : SlashPath)
  | noSuchPath (path : SlashPath)
  | notSource (path : SlashPath)
  | noMatch (pattern : String)
  | given (text : String)

def Problem.message : Problem → String
  | unreadable path cause => path.text ++ ": " ++ cause.message
  | badConstraint path error => path.text ++ ": " ++ error.message
  | noPackageClause path => path.text ++ ": expected package clause"
  | mixedPackages found directory =>
    let names := found.map fun (name, path) => name ++ " (" ++ path.name ++ ")"
    "found packages " ++ " and ".intercalate names ++ " in " ++ directory.text
  | noFiles directory => "no Go files in " ++ directory.text
  | allExcluded directory => "build constraints exclude all Go files in " ++ directory.text
  | noDirectory path => "directory not found: " ++ path.text
  | noSuchPath path => path.text ++ ": no such file or directory"
  | notSource path => path.text ++ ": not a Go source file"
  | noMatch pattern => "pattern " ++ Text.quote pattern ++ " matched no packages"
  | given text => text

end SliceGrowth
