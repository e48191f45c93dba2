import ViewLayout.Constraint.SizeClass
import ViewLayout.Value.Arrangement
import ViewLayout.Value.Shown

/-!
# Configuration

The settings of a layout pass. Settings are read from named values as they are; only the size
classes of the environment are checked, and an unknown one is replaced by `any` with a warning.
-/

namespace ViewLayout

/-- The settings of a layout pass. -/
structure Config where
  /-- The reference that means the parent of a view. -/
  parentReference : Value := .text "super"
  /-- Whether sizes are constrained to a constant even if a view is given. -/
  independentIgnoresExplicitView : Value := .bool false
  /-- The horizontal size class of the environment. -/
  horizontalSizeClass : SizeClassKey := .any
  /-- The vertical size class of the environment. -/
  verticalSizeClass : SizeClassKey := .any
  /-- The least level of log records that are shown. -/
  logLevel : Value := .text "WARNING"

namespace Config

/-- Why named values are no configuration. -/
inductive Fault
  | unexpectedSetting (name : String)
  | reservedName
  | unhashable (kind : String)
  | notMapping (path : String)
  | unshowable (cause : Unshowable)
deriving DecidableEq

/-- The name that a configuration has for itself, which no setting may have. -/
def ownName : String := "self"

/-- What is said of a configuration that cannot be used. -/
def Fault.message : Fault → String
  | unexpectedSetting name =>
    s!"CompilerConfig.__init__() got an unexpected keyword argument '{name}'"
  | reservedName => s!"CompilerConfig.__init__() got multiple values for argument '{ownName}'"
  | unhashable kind => s!"unhashable type: {Text.quote kind}"
  | notMapping path => s!"Config file {path} must contain a mapping"
  | unshowable cause => cause.message

/-- What is told about a configuration while it is read. -/
inductive Remark
  | unknownSizeClass (setting : String) (value : Value)
  | unknownSetting (key : Value)

namespace Remark

/-- The value that a remark is about. -/
def subject : Remark → Value
  | unknownSizeClass _ value => value
  | unknownSetting key => key

/-- What is said of a setting that is passed over. -/
def message : Remark → String
  | unknownSizeClass setting value =>
    s!"Unknown {setting} '{value.shown}', using 'any' (expected one of: " ++
      ", ".intercalate (SizeClassKey.all.map SizeClassKey.text) ++ ")"
  | unknownSetting key => s!"Ignoring unknown config key '{key.shown}'"

end Remark

/-- A step of reading a configuration, which tells remarks and may fail. -/
abbrev Step : Type → Type := ExceptT Fault (StateM (List Remark))

/-- Tells a remark, if it can be shown. -/
def tell (remark : Remark) : Step Unit := do
  if remark.subject.shown?.isNone then throw (.unshowable .integerTooLong)
  modify (· ++ [remark])

/-- A configuration that was read, or why there is none, with what was told in either case. -/
structure Loaded where
  remarks : List Remark
  result : Except Fault Config

/-- Runs a step, with its remarks. -/
def Step.load (step : Step Config) : Loaded :=
  let (result, remarks) := step.run.run []
  ⟨remarks, result⟩

/-- The settings that a configuration has. -/
def settingNames : List String :=
  ["parent_reference", "independent_ignores_explicit_view", "horizontal_size_class",
    "vertical_size_class", "log_level"]

/-- The size classes that a configuration asks for, by the keys of both directions. -/
def environment (config : Config) : SizeClasses where
  horizontal := config.horizontalSizeClass.sizeClass
  vertical := config.verticalSizeClass.sizeClass

/-- The size class that a value gives for a setting. -/
def sizeClassKey (setting : String) (value : Value) : Step SizeClassKey := do
  if !value.isKey then throw (.unhashable value.kind)
  match value.text? >>= SizeClassKey.ofText? with
  | some key => return key
  | none =>
    tell (.unknownSizeClass setting value)
    return .any

/-- The value of a setting, or the given one if it is not set. -/
def settingD (settings : List (Value × Value)) (name : String) (standard : Value) : Value :=
  (Value.lookup? settings name).getD standard

/-- The fault of the first name that is no setting's. -/
def unexpected? (settings : List (Value × Value)) : Option Fault :=
  settings.findSome? fun entry =>
    match entry.1 with
    | .text name =>
      if settingNames.contains name then none
      else if name = ownName then some .reservedName
      else some (.unexpectedSetting name)
    | _ => none

/-- The configuration that named values give. -/
def ofSettings (settings : List (Value × Value)) : Step Config := do
  if let some fault := unexpected? settings then throw fault
  let any : Value := .text SizeClassKey.any.text
  let horizontalSizeClass ←
    sizeClassKey "horizontal_size_class" (settingD settings "horizontal_size_class" any)
  let verticalSizeClass ←
    sizeClassKey "vertical_size_class" (settingD settings "vertical_size_class" any)
  let standard : Config := {}
  return {
    parentReference := settingD settings "parent_reference" standard.parentReference
    independentIgnoresExplicitView :=
      settingD settings "independent_ignores_explicit_view" standard.independentIgnoresExplicitView
    horizontalSizeClass, verticalSizeClass
    logLevel := settingD settings "log_level" standard.logLevel }

/-- Whether a key is the name of a setting. -/
def isSetting (key : Value) : Bool :=
  key.text?.any settingNames.contains

/-- **The configuration that a document gives.** A document without a value gives the standard one,
and unknown settings are told and left out. -/
def ofDocument (path : String) (document : Value) : Step Config := do
  match (if document.isTruthy then document else .mapping []).entries? with
  | none => throw (.notMapping path)
  | some entries =>
    let (known, unknown) := entries.partition fun entry => isSetting entry.1
    unknown.forM fun entry => tell (.unknownSetting entry.1)
    ofSettings known

/-- The configuration with other size classes of the environment, where they are given. -/
def withSizeClasses (config : Config) (horizontal vertical : Option String) :
    Config × List Remark :=
  let override (setting : String) (current : SizeClassKey) (given : Option String) :
      SizeClassKey × List Remark :=
    match given with
    | none => (current, [])
    | some text =>
      match SizeClassKey.ofText? text with
      | some key => (key, [])
      | none => (.any, [.unknownSizeClass setting (.text text)])
  let (horizontalKey, horizontalRemarks) :=
    override "horizontal_size_class" config.horizontalSizeClass horizontal
  let (verticalKey, verticalRemarks) :=
    override "vertical_size_class" config.verticalSizeClass vertical
  ({ config with horizontalSizeClass := horizontalKey, verticalSizeClass := verticalKey },
    horizontalRemarks ++ verticalRemarks)

/-- The settings by name, with copies of their values. -/
def toValue (config : Config) : Value :=
  .mapping
    [(.text "parent_reference", Arrangement.copied config.parentReference),
      (.text "independent_ignores_explicit_view",
        Arrangement.copied config.independentIgnoresExplicitView),
      (.text "horizontal_size_class", .text config.horizontalSizeClass.text),
      (.text "vertical_size_class", .text config.verticalSizeClass.text),
      (.text "log_level", Arrangement.copied config.logLevel)]

end Config

end ViewLayout
