import UserPortal.Json.Value

/-!
# The `config-raw` snapshot of a reply

Port of `ExtractConfigRawSnapshot` of `src/RESTAPI/RESTAPI_parental_control_utils.cpp`. A snapshot is
an array of commands, each an array of two or three strings.
-/

namespace UserPortal.RestApi

/-- A command of a snapshot. -/
def isConfigRawCommand (j : Json) : Bool :=
  match j with
  | .arr cmd => (cmd.length = 2 || cmd.length = 3) && cmd.all Json.isString
  | _ => false

/-- `ExtractConfigRawSnapshot`: `none` when it fails, else the snapshot, which may be absent. -/
def extractConfigRawSnapshot (callResponse : Option Json.Object) (required : Bool) :
    Option (Option (List Json)) :=
  match callResponse with
  | none => if required then none else some none
  | some o =>
    match o.get? "config-raw" with
    | none => if required then none else some none
    | some .null => some none
    | some (.arr configRaw) => if configRaw.all isConfigRawCommand then some (some configRaw) else none
    | some _ => none

end UserPortal.RestApi
