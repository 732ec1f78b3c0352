import PageObject.Text.Blank
import PageObject.Text.Segments

namespace PageObject

structure PackageMapping where
  entries : List (String × String) := []
deriving DecidableEq, Repr

namespace PackageMapping

def insertEntry (name package : String) : List (String × String) → List (String × String)
  | [] => [(name, package)]
  | (other, held) :: rest =>
    if name < other then (name, package) :: (other, held) :: rest
    else if name = other then (name, package) :: rest
    else (other, held) :: insertEntry name package rest

def insert (mapping : PackageMapping) (name package : String) : PackageMapping :=
  ⟨insertEntry name package mapping.entries⟩

def get? (mapping : PackageMapping) (name : String) : Option String := mapping.entries.lookup name

def ofList (entries : List (String × String)) : PackageMapping :=
  entries.foldl (fun mapping (name, package) => mapping.insert name package) {}

end PackageMapping

structure Config where
  corePackage : String := "utam.core.element"
  listImport : String := "java.util.List"
  packageMapping : PackageMapping := {}
deriving DecidableEq, Repr

inductive ConfigError where
  | blankCorePackage
  | unqualifiedListImport (name : String)
  | blankPackage (name : String)
deriving DecidableEq, Repr

def ConfigError.message : ConfigError → String
  | .blankCorePackage => "config error: corePackage must be a non-empty package name"
  | .unqualifiedListImport name =>
    "config error: listImport '" ++ name ++ "' must be a qualified type name"
  | .blankPackage name =>
    "config error: packageMapping." ++ name ++ " must be a non-empty package name"

def isQualified (name : String) : Bool :=
  match Text.splitLast? '.' name.toList with
  | some (before, after) => !before.isEmpty && !after.isEmpty
  | none => false

def Config.check (config : Config) : Except ConfigError Unit :=
  if Text.isBlankText config.corePackage then .error .blankCorePackage
  else if !isQualified config.listImport then .error (.unqualifiedListImport config.listImport)
  else
    match config.packageMapping.entries.find? fun entry => Text.isBlankText entry.2 with
    | some (name, _) => .error (.blankPackage name)
    | none => .ok ()

end PageObject
