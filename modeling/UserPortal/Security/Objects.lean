import UserPortal.Framework.Dynamic
import UserPortal.Framework.Utils

/-!
# Security objects

Port of the parts of `src/RESTObjects/RESTAPI_SecurityObjects.cpp` and of `field_from_json` in
`src/framework/RESTAPI_utils.h` which authentication reads. A record is filled field by field in the
order of the source: a field whose conversion throws stops the filling and leaves the fields read so
far as they are.
-/

namespace UserPortal.Security

/-- Fill a record field by field, up to the first field which throws. -/
def fill {α : Type} : List (α → Option α) → α → α
  | [], a => a
  | field :: fields, a =>
    match field a with
    | some b => fill fields b
    | none => a

section Fields

variable {α : Type} (conv : Conversions)

/-- `field_from_json` at a `std::string` -/
def stringField (o : Json.Object) (k : String) (assign : String → α → α) (a : α) : Option α :=
  if o.isNull k then some a else (conv.getString o k).map (assign · a)

/-- `field_from_json` at a `uint64_t` -/
def uint64Field (o : Json.Object) (k : String) (assign : Nat → α → α) (a : α) : Option α :=
  if o.isNull k then some a else ((o.get? k).bind conv.toUInt64).map (assign · a)

/-- `field_from_json` at a vector whose contents are not used: an element which is not an object
throws. -/
def vectorField (o : Json.Object) (k : String) (a : α) : Option α :=
  match o.getArray? k with
  | some xs => if xs.all fun x => x.object?.isSome then some a else none
  | none => some a

end Fields

structure WebToken where
  accessToken : String := ""
  refreshToken : String := ""
  tokenType : String := ""
  expiresIn : Nat := 0
  idleTimeout : Nat := 0
  created : Nat := 0
  deriving DecidableEq

/-- `WebToken::from_json`, up to the last field which is used. -/
def WebToken.fromJson (conv : Conversions) (o : Json.Object) : WebToken → WebToken :=
  fill [
    stringField conv o "access_token" fun s w => { w with accessToken := s },
    stringField conv o "refresh_token" fun s w => { w with refreshToken := s },
    stringField conv o "token_type" fun s w => { w with tokenType := s },
    uint64Field conv o "expires_in" fun n w => { w with expiresIn := n },
    uint64Field conv o "idle_timeout" fun n w => { w with idleTimeout := n },
    uint64Field conv o "created" fun n w => { w with created := n }]

/-- `USER_ROLE` -/
inductive UserRole where
  | unknown
  | root
  | admin
  | subscriber
  | csr
  | system
  | installer
  | noc
  | accounting
  | partner
  deriving DecidableEq

/-- `UserTypeFromString`, which ignores the case. -/
def userTypeFromString (u : String) : UserRole :=
  match Utils.toLower u with
  | "root" => .root
  | "admin" => .admin
  | "subscriber" => .subscriber
  | "partner" => .partner
  | "csr" => .csr
  | "system" => .system
  | "installer" => .installer
  | "noc" => .noc
  | "accounting" => .accounting
  | _ => .unknown

structure UserInfo where
  id : String := ""
  email : String := ""
  owner : String := ""
  userRole : UserRole := .unknown
  deriving DecidableEq

/-- `UserInfo::from_json`, restricted to the fields which are used and to `notes`, which can throw
before `owner` and `userRole` are read. -/
def UserInfo.fromJson (conv : Conversions) (o : Json.Object) : UserInfo → UserInfo :=
  fill [
    stringField conv o "id" fun s u => { u with id := s },
    stringField conv o "email" fun s u => { u with email := s },
    vectorField o "notes",
    stringField conv o "owner" fun s u => { u with owner := s },
    stringField conv o "userRole" fun s u => { u with userRole := userTypeFromString s }]

structure UserInfoAndPolicy where
  webtoken : WebToken := {}
  userinfo : UserInfo := {}
  deriving DecidableEq

/-- `UserInfoAndPolicy::from_json` -/
def UserInfoAndPolicy.fromJson (conv : Conversions) (o : Json.Object) (u : UserInfoAndPolicy) :
    UserInfoAndPolicy where
  webtoken :=
    match o.getObject? "tokenInfo" with
    | some t => WebToken.fromJson conv t u.webtoken
    | none => u.webtoken
  userinfo :=
    match o.getObject? "userInfo" with
    | some t => UserInfo.fromJson conv t u.userinfo
    | none => u.userinfo

end UserPortal.Security
