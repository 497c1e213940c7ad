import PackageDoc.Disk.Error
import PackageDoc.Marker

/-! # Failures

What can go wrong, each cause with its code, its help and its message. -/
set_option autoImplicit false

namespace PackageDoc

inductive Failure where
  | disk (cause : DiskError)
  | configParse
  | missingPattern (index : Nat)
  | missingTemplate (index : Nat)
  | templateNotFound (index : Nat) (path : String)
  | templateNotFile (index : Nat) (path : String)
  | sourceNotDirectory (path : String)
  | outputNotDirectory (path : String)
  | invalidMarkerPattern (pattern : String) (fault : MarkerFault)
  | templateLoad (path : String) (cause : DiskError)
  | templateNotLoaded (path : String)
  | listing (path : String) (cause : DiskError)
  | reading (path : String) (cause : DiskError)
  | writing (path : String) (cause : DiskError)
  | creating (path : String) (cause : DiskError)
  | symlinkCycle (path : String)
  deriving DecidableEq, Repr

namespace Failure

def code : Failure → String
  | .disk _ => "pkginfo::io_error"
  | .configParse => "pkginfo::config_parse"
  | .missingPattern _ => "pkginfo::missing_pattern"
  | .missingTemplate _ => "pkginfo::missing_template"
  | .templateNotFound _ _ => "pkginfo::template_not_found"
  | .templateNotFile _ _ => "pkginfo::template_not_file"
  | .sourceNotDirectory _ => "pkginfo::source_not_directory"
  | .outputNotDirectory _ => "pkginfo::output_not_directory"
  | .invalidMarkerPattern _ _ => "pkginfo::invalid_marker_pattern"
  | .templateLoad _ _ => "pkginfo::template_load"
  | .templateNotLoaded _ => "pkginfo::template_not_loaded"
  | .listing _ _ => "pkginfo::read_directory"
  | .reading _ _ => "pkginfo::read_file"
  | .writing _ _ => "pkginfo::write_file"
  | .creating _ _ => "pkginfo::create_directory"
  | .symlinkCycle _ => "pkginfo::symlink_cycle"

def help? : Failure → Option String
  | .configParse =>
    some "check that pkginfo.toml is valid TOML with one or more [[packages]] entries"
  | .missingPattern _ => some "set `pattern` to a dotted glob such as `com.example.**`"
  | .missingTemplate _ => some "set `template` to the path of a package-info template file"
  | .outputNotDirectory _ => some "remove the file or point `output_directory` somewhere else"
  | .invalidMarkerPattern _ _ =>
    some ("the pattern needs exactly three capture groups: " ++
      "prefix marker, body, suffix marker")
  | .templateNotLoaded _ => some "this is a bug in pkginfo, please report it"
  | .symlinkCycle _ => some "remove the circular symlink from the source tree"
  | _ => none

/-- Whether the failure is found before any file is touched. -/
def isConfiguration : Failure → Bool
  | .configParse | .missingPattern _ | .missingTemplate _ | .templateNotFound _ _
  | .templateNotFile _ _ | .sourceNotDirectory _ | .outputNotDirectory _
  | .invalidMarkerPattern _ _ | .templateLoad _ _ => true
  | _ => false

/-- The package entry that a message speaks of. -/
def entry (index : Nat) : String := "packages[" ++ toString index ++ "]: "

/-- A name as messages show it. -/
def shown (name : String) : String := "`" ++ name ++ "`"

/-- The message, if its text is settled here.  What a reader of settings or patterns has to say
about a text is not. -/
def message? : Failure → Option String
  | .disk cause => some cause.message
  | .configParse => none
  | .missingPattern index => some (entry index ++ "`pattern` is required")
  | .missingTemplate index => some (entry index ++ "`template` is required")
  | .templateNotFound index path =>
    some (entry index ++ "template " ++ shown path ++ " does not exist")
  | .templateNotFile index path =>
    some (entry index ++ "template " ++ shown path ++ " is not a file")
  | .sourceNotDirectory path => some ("source directory " ++ shown path ++ " is not a directory")
  | .outputNotDirectory path => some ("output directory " ++ shown path ++ " is not a directory")
  | .invalidMarkerPattern pattern (.groupCount found) =>
    some ("invalid inline replace pattern " ++ shown pattern ++ ": expected " ++
      toString MarkerPattern.groupCount ++ " capture groups, found " ++ toString found)
  | .invalidMarkerPattern _ (.refused _) => none
  | .templateLoad path _ => some ("failed to load template " ++ shown path)
  | .templateNotLoaded path => some ("template " ++ shown path ++ " was matched but never loaded")
  | .listing path _ => some ("unable to list directory " ++ shown path)
  | .reading path _ => some ("unable to read " ++ shown path)
  | .writing path _ => some ("unable to write to " ++ shown path)
  | .creating path _ => some ("unable to create directory " ++ shown path)
  | .symlinkCycle path => some ("symlink cycle detected at: " ++ shown path)

/-- The disk error behind a failure. -/
def cause? : Failure → Option DiskError
  | .disk cause | .templateLoad _ cause | .listing _ cause | .reading _ cause
  | .writing _ cause | .creating _ cause => some cause
  | _ => none

end Failure
end PackageDoc
