import Mathlib.Data.List.Forall2
import UserPortal.Sdk.SsidEntries

/-!
# What overriding the SSIDs does

`ApplySsidOverrides` promises that it succeeds when at least one SSID was updated. It succeeds when some
interface has a list of SSIDs which is not empty, whatever is in that list. What it changes are the names
and the keys of the SSIDs which are not the mesh backhaul.
-/

namespace UserPortal.Sdk.Gw
open Interaction

variable {conv : Conversions} {req : SsidRequest} {config config' body : Json.Object}

/-! ## The request -/

/-- A body which asks for an SSID, valid once trimmed. -/
structure Requests (conv : Conversions) (body : Json.Object) (req : SsidRequest) : Prop where
  values : ∃ ssidObj name password, body.getObject? "ssid" = some ssidObj ∧
    conv.getString ssidObj "name" = some name ∧ conv.getString ssidObj "password" = some password ∧
    req = ⟨Utils.trim name, Utils.trim password⟩
  name : validateSsidName req.name = true
  password : validateSsidPassword req.password = true

/-- When a name and a password are accepted. -/
lemma validateSsid_ok_iff {name password : String} :
    validateSsid name password = .ok req ↔
      req = ⟨name, password⟩ ∧ validateSsidName name = true ∧ validateSsidPassword password = true := by
  have empty : validateSsidName "" = false ∧ validateSsidPassword "" = false := by decide
  rw [validateSsid]
  split
  case isTrue none_ =>
    refine ⟨nofun, ?_⟩
    rintro ⟨_, valid, valid'⟩
    rcases none_ with rfl | rfl
    · rw [empty.1] at valid
      cases valid
    · rw [empty.2] at valid'
      cases valid'
  case isFalse =>
    split
    case isTrue invalid =>
      refine ⟨nofun, ?_⟩
      rintro ⟨_, valid, _⟩
      rw [invalid] at valid
      cases valid
    case isFalse valid =>
      split
      case isTrue invalid =>
        refine ⟨nofun, ?_⟩
        rintro ⟨_, _, valid'⟩
        rw [invalid] at valid'
        cases valid'
      case isFalse valid' =>
        rw [Bool.not_eq_false] at valid valid'
        refine ⟨?_, ?_⟩
        · intro h
          cases h
          exact ⟨rfl, valid, valid'⟩
        · rintro ⟨rfl, _, _⟩
          rfl

/-- `ApplySsidOverrides` reads the SSID which is requested. -/
lemma parseSsid_ok_iff : parseSsid conv body = .ok req ↔ Requests conv body req := by
  rw [parseSsid]
  refine ⟨?_, ?_⟩
  · intro h
    split at h
    case h_1 => cases h
    case h_2 ssidObj eq =>
      split at h
      case h_2 => cases h
      case h_1 name password eqn eqp =>
        obtain ⟨rfl, valid, valid'⟩ := validateSsid_ok_iff.mp h
        exact ⟨⟨ssidObj, name, password, eq, eqn, eqp, rfl⟩, valid, valid'⟩
  · rintro ⟨⟨ssidObj, name, password, eq, eqn, eqp, rfl⟩, valid, valid'⟩
    simp only [eq, eqn, eqp]
    exact validateSsid_ok_iff.mpr ⟨rfl, valid, valid'⟩

/-! ## What is changed -/

/-- An SSID with the requested name and key, and all else as it was. -/
structure SsidOverridden (req : SsidRequest) (ssid ssid' : Json.Object) : Prop where
  name : ssid'.get? "name" = some (.str req.name)
  encryption : ∃ e e', ssid.getObject? "encryption" = some e ∧ ssid'.getObject? "encryption" = some e' ∧
    e'.get? "key" = some (.str req.password) ∧ ∀ k, "key" ≠ k → e'.get? k = e.get? k
  others : ∀ k, "name" ≠ k → "encryption" ≠ k → ssid'.get? k = ssid.get? k

/-- An entry of an `ssids` array before and after. -/
inductive EntryOverridden (req : SsidRequest) : Json → Json → Prop where
  | kept {j : Json} :
    (∀ ssid, j.object? = some ssid → isMesh ssid = true) →
    EntryOverridden req j j
  | changed {ssid ssid' : Json.Object} :
    isMesh ssid = false →
    SsidOverridden req ssid ssid' →
    EntryOverridden req (.obj ssid) (.obj ssid')

/-- An interface before and after. -/
inductive InterfaceOverridden (req : SsidRequest) : Json → Json → Prop where
  | kept {j : Json} :
    interfaceEntries j = [] →
    InterfaceOverridden req j j
  | changed {iface iface' : Json.Object} {ssids ssids' : List Json} :
    iface.getArray? "ssids" = some ssids →
    iface'.getArray? "ssids" = some ssids' →
    List.Forall₂ (EntryOverridden req) ssids ssids' →
    (∀ k, "ssids" ≠ k → iface'.get? k = iface.get? k) →
    InterfaceOverridden req (.obj iface) (.obj iface')

/-- A configuration before and after. -/
structure Overridden (req : SsidRequest) (config config' : Json.Object) : Prop where
  carries : CarriesSsid req config'
  interfaces : ∃ xs xs', config.getArray? "interfaces" = some xs ∧
    config'.getArray? "interfaces" = some xs' ∧ List.Forall₂ (InterfaceOverridden req) xs xs'
  others : ∀ k, "interfaces" ≠ k → config'.get? k = config.get? k

/-- What overriding one SSID has done. -/
lemma overrideSsid_overridden {j j' : Json} (h : overrideSsid req j = .ok j') :
    EntryOverridden req j j' := by
  rw [overrideSsid] at h
  split at h
  case h_1 ssid eq =>
    cases Json.object?_eq_some.mp eq
    split at h
    case isTrue mesh =>
      cases h
      refine .kept ?_
      intro ssid' eq'
      cases eq'
      exact mesh
    case isFalse mesh =>
      split at h
      case h_2 => cases h
      case h_1 e found =>
        cases h
        refine .changed (by simpa using mesh) ⟨?_, ?_, ?_⟩
        · rw [Json.Object.get?_set_of_ne _ _ (by decide), Json.Object.get?_set_self]
        · refine ⟨e, _, found, Json.Object.getObject?_set_self .., e.get?_set_self .., ?_⟩
          intro k ne
          exact e.get?_set_of_ne _ ne
        · intro k ne ne'
          rw [Json.Object.get?_set_of_ne _ _ ne', Json.Object.get?_set_of_ne _ _ ne]
  case h_2 none_ =>
    cases h
    refine .kept ?_
    intro ssid eq
    rw [none_] at eq
    cases eq

/-- What overriding one interface has done. -/
lemma overrideInterface_overridden {j : Json} {r : Json × Bool} (h : overrideInterface req j = .ok r) :
    InterfaceOverridden req j r.1 := by
  rw [overrideInterface] at h
  split at h
  case h_1 iface eq =>
    cases Json.object?_eq_some.mp eq
    split at h
    case h_1 none_ =>
      cases h
      refine .kept ?_
      rw [interfaceEntries, Json.object?, Option.bind_some, none_]
      rfl
    case h_2 none_ =>
      cases h
      refine .kept ?_
      rw [interfaceEntries, Json.object?, Option.bind_some, none_]
      rfl
    case h_3 ssids _ found =>
      obtain ⟨ssids', eq', h⟩ := except_bind_ok h
      cases h
      refine .changed found (iface.getArray?_set_self ..) ?_ ?_
      · exact (mapM_ok_iff.mp eq').imp fun _ _ => overrideSsid_overridden
      · intro k ne
        exact iface.get?_set_of_ne _ ne
  case h_2 none_ =>
    cases h
    refine .kept ?_
    rw [interfaceEntries, none_]
    rfl

/-- What overriding all interfaces has done. -/
lemma overrideInterfaces_overridden (h : overrideInterfaces req config = .ok config') :
    Overridden req config config' := by
  refine ⟨overrideInterfaces_carries h, ?_, fun k ne => overrideInterfaces_get? h ne⟩
  rw [overrideInterfaces] at h
  split at h
  case h_1 => cases h
  case h_2 => cases h
  case h_3 interfaces _ found =>
    obtain ⟨overridden, eq, h⟩ := except_bind_ok h
    split at h
    case isFalse => cases h
    case isTrue =>
      cases h
      refine ⟨interfaces, _, found, config.getArray?_set_self .., ?_⟩
      exact List.forall₂_map_right_iff.mpr
        ((mapM_ok_iff.mp eq).imp fun _ _ => overrideInterface_overridden)

/-! ## When it succeeds -/

/-- The entries which are not the backhaul have an `encryption`. -/
def AllEncrypted (config : Json.Object) : Prop :=
  ∀ ssid ∈ ssidEntries config, ∃ e, ssid.getObject? "encryption" = some e

/-- The interface has a list of SSIDs which is not empty. -/
def hasSsids (iface : Json) : Bool :=
  !((iface.object?.bind fun o => o.getArray? "ssids").getD []).isEmpty

/-- Some interface has a list of SSIDs which is not empty. -/
def HasSsids (config : Json.Object) : Prop :=
  ∃ iface ∈ (config.getArray? "interfaces").getD [], hasSsids iface = true

/-- The entries of a list are the SSIDs which are not of the mesh. -/
lemma mem_entriesOf {ssids : List Json} {ssid : Json.Object} :
    ssid ∈ entriesOf ssids ↔ .obj ssid ∈ ssids ∧ isMesh ssid = false := by
  rw [entriesOf, List.mem_filter, List.mem_filterMap, Bool.not_eq_true']
  refine and_congr_left fun _ => ?_
  refine ⟨?_, ?_⟩
  · rintro ⟨j, mem, eq⟩
    rwa [← Json.object?_eq_some.mp eq]
  · intro mem
    exact ⟨_, mem, rfl⟩

/-- When an SSID can be overridden. -/
lemma overrideSsid_succeeds_iff {j : Json} :
    (∃ j', overrideSsid req j = .ok j') ↔
      ∀ ssid : Json.Object, j = .obj ssid → isMesh ssid = false → ∃ e, ssid.getObject? "encryption" = some e := by
  rw [overrideSsid]
  refine ⟨?_, ?_⟩
  · rintro ⟨j', h⟩ ssid rfl mesh
    rw [Json.object?] at h
    dsimp only at h
    rw [mesh, if_neg Bool.false_ne_true] at h
    split at h
    case h_1 e found => exact ⟨e, found⟩
    case h_2 => cases h
  · intro h
    split
    case h_1 ssid eq =>
      split
      case isTrue => exact ⟨_, rfl⟩
      case isFalse mesh =>
        obtain ⟨e, found⟩ := h ssid (Json.object?_eq_some.mp eq) (by simpa using mesh)
        rw [found]
        exact ⟨_, rfl⟩
    case h_2 => exact ⟨_, rfl⟩

/-- When an interface can be overridden. -/
lemma overrideInterface_succeeds_iff {j : Json} :
    (∃ r, overrideInterface req j = .ok r) ↔
      ∀ ssid ∈ interfaceEntries j, ∃ e, ssid.getObject? "encryption" = some e := by
  have none_ : ∀ o : Option (List Json), (o = none ∨ o = some []) → entriesOf (o.getD []) = [] := by
    rintro o (rfl | rfl)
    · rfl
    · rfl
  unfold overrideInterface interfaceEntries
  split
  case h_1 iface eq =>
    rw [eq, Option.bind_some]
    split
    case h_1 no =>
      rw [none_ _ (.inl no)]
      exact ⟨fun _ => nofun, fun _ => ⟨_, rfl⟩⟩
    case h_2 no =>
      rw [none_ _ (.inr no)]
      exact ⟨fun _ => nofun, fun _ => ⟨_, rfl⟩⟩
    case h_3 ssids _ found =>
      rw [found, Option.getD_some]
      have each : (∃ ssids', ssids.mapM (overrideSsid req) = .ok ssids') ↔
          ∀ ssid ∈ entriesOf ssids, ∃ e, ssid.getObject? "encryption" = some e := by
        rw [mapM_succeeds_iff]
        simp only [overrideSsid_succeeds_iff, mem_entriesOf]
        constructor
        · rintro h ssid ⟨mem, mesh⟩
          exact h _ mem ssid rfl mesh
        · rintro h j mem ssid rfl mesh
          exact h ssid ⟨mem, mesh⟩
      rw [← each]
      constructor
      · rintro ⟨r, h⟩
        obtain ⟨ssids', eq', _⟩ := except_bind_ok h
        exact ⟨ssids', eq'⟩
      · rintro ⟨ssids', eq'⟩
        exact ⟨_, by rw [eq']; rfl⟩
  case h_2 no =>
    rw [no]
    exact ⟨fun _ => nofun, fun _ => ⟨_, rfl⟩⟩

/-- What is flagged is a list of SSIDs which is not empty. -/
lemma overrideInterface_flag {j : Json} {r : Json × Bool} (h : overrideInterface req j = .ok r) :
    r.2 = hasSsids j := by
  rw [overrideInterface] at h
  rw [hasSsids]
  split at h
  case h_1 iface eq =>
    rw [eq, Option.bind_some]
    split at h
    case h_1 no =>
      cases h
      rw [no]
      rfl
    case h_2 no =>
      cases h
      rw [no]
      rfl
    case h_3 ssids none_ found =>
      obtain ⟨_, _, h⟩ := except_bind_ok h
      cases h
      rw [found, Option.getD_some]
      cases ssids with
      | nil => exact absurd rfl none_
      | cons => rfl
  case h_2 no =>
    cases h
    rw [no]
    rfl

/-- An interface is flagged where it has SSIDs. -/
lemma flags_eq {xs : List Json} {overridden : List (Json × Bool)}
    (h : List.Forall₂ (fun x r => overrideInterface req x = .ok r) xs overridden) :
    (overridden.any fun r => r.2) = xs.any hasSsids := by
  induction h with
  | nil => rfl
  | cons first _ ih => rw [List.any_cons, List.any_cons, ih, overrideInterface_flag first]

/-- It succeeds where every entry has an `encryption`, and some list of SSIDs is not empty. -/
lemma overrideInterfaces_succeeds_iff :
    (∃ config', overrideInterfaces req config = .ok config') ↔ AllEncrypted config ∧ HasSsids config := by
  unfold overrideInterfaces AllEncrypted HasSsids ssidEntries
  split
  case h_1 no =>
    rw [no]
    refine ⟨nofun, ?_⟩
    rintro ⟨_, _, mem, _⟩
    cases mem
  case h_2 no =>
    rw [no]
    refine ⟨nofun, ?_⟩
    rintro ⟨_, _, mem, _⟩
    cases mem
  case h_3 interfaces _ found =>
    rw [found, Option.getD_some]
    have each : (∃ overridden, interfaces.mapM (overrideInterface req) = .ok overridden) ↔
        ∀ ssid ∈ interfaces.flatMap interfaceEntries, ∃ e, ssid.getObject? "encryption" = some e := by
      rw [mapM_succeeds_iff]
      simp only [overrideInterface_succeeds_iff, List.mem_flatMap]
      constructor
      · rintro h ssid ⟨iface, mem, entry⟩
        exact h iface mem ssid entry
      · intro h iface mem ssid entry
        exact h ssid ⟨iface, mem, entry⟩
    rw [← each]
    constructor
    · rintro ⟨config', h⟩
      obtain ⟨overridden, eq, h⟩ := except_bind_ok h
      refine ⟨⟨overridden, eq⟩, ?_⟩
      split at h
      case isTrue flagged =>
        rw [flags_eq (mapM_ok_iff.mp eq)] at flagged
        exact List.any_eq_true.mp flagged
      case isFalse => cases h
    · rintro ⟨⟨overridden, eq⟩, some_⟩
      have flagged : (overridden.any fun r => r.2) = true := by
        rw [flags_eq (mapM_ok_iff.mp eq)]
        exact List.any_eq_true.mpr some_
      exact ⟨_, by rw [eq]; exact if_pos flagged⟩

/-- The entries are entries of lists which are not empty. -/
lemma hasSsids_of_entries (h : ssidEntries config ≠ []) : HasSsids config := by
  obtain ⟨ssid, mem⟩ := List.exists_mem_of_ne_nil _ h
  obtain ⟨iface, hi, entry⟩ := List.mem_flatMap.mp mem
  refine ⟨iface, hi, ?_⟩
  obtain ⟨listed, _⟩ := mem_entriesOf.mp entry
  rw [hasSsids, Bool.not_eq_true', List.isEmpty_eq_false_iff]
  exact List.ne_nil_of_mem listed

/-! ## The contract -/

/-- What `ApplySsidOverrides` promises. -/
structure MeetsContract (conv : Conversions) (config body : Json.Object) : Prop where
  succeeds : (∃ config', applySsidOverrides conv config body = .ok config') ↔
    (∃ req, Requests conv body req) ∧ AllEncrypted config ∧ ssidEntries config ≠ []
  overrides : ∀ config', applySsidOverrides conv config body = .ok config' →
    ∃ req, Requests conv body req ∧ Overridden req config config'

/-- When the overrides succeed. -/
lemma applySsidOverrides_succeeds_iff :
    (∃ config', applySsidOverrides conv config body = .ok config') ↔
      (∃ req, Requests conv body req) ∧ AllEncrypted config ∧ HasSsids config := by
  refine ⟨?_, ?_⟩
  · rintro ⟨config', h⟩
    obtain ⟨req, parsed, h⟩ := except_bind_ok h
    exact ⟨⟨req, parseSsid_ok_iff.mp parsed⟩, overrideInterfaces_succeeds_iff.mp ⟨config', h⟩⟩
  · rintro ⟨⟨req, requests⟩, ok⟩
    obtain ⟨config', h⟩ : ∃ config', overrideInterfaces req config = .ok config' :=
      overrideInterfaces_succeeds_iff.mpr ok
    refine ⟨config', ?_⟩
    rw [applySsidOverrides, parseSsid_ok_iff.mpr requests]
    exact h

/-- What the overrides have done. -/
lemma applySsidOverrides_overridden (h : applySsidOverrides conv config body = .ok config') :
    ∃ req, Requests conv body req ∧ Overridden req config config' := by
  obtain ⟨req, parsed, h⟩ := except_bind_ok h
  exact ⟨req, parseSsid_ok_iff.mp parsed, overrideInterfaces_overridden h⟩

/-- It keeps its promise, unless it is given a valid request and lists of SSIDs none of which can be
updated. -/
theorem applySsidOverrides_meetsContract_iff (conv : Conversions) (config body : Json.Object) :
    MeetsContract conv config body ↔
      ¬ ((∃ req, Requests conv body req) ∧ ssidEntries config = [] ∧ HasSsids config) := by
  refine ⟨?_, ?_⟩
  · rintro ⟨succeeds, _⟩ ⟨requests, none_, listed⟩
    have encrypted : AllEncrypted config := by
      intro ssid mem
      rw [none_] at mem
      cases mem
    obtain ⟨_, _, updated⟩ :=
      succeeds.mp (applySsidOverrides_succeeds_iff.mpr ⟨requests, encrypted, listed⟩)
    exact updated none_
  · intro good
    refine ⟨applySsidOverrides_succeeds_iff.trans ?_, fun _ => applySsidOverrides_overridden⟩
    refine ⟨?_, ?_⟩
    · rintro ⟨requests, encrypted, listed⟩
      exact ⟨requests, encrypted, fun none_ => good ⟨requests, none_, listed⟩⟩
    · rintro ⟨requests, encrypted, some_⟩
      exact ⟨requests, encrypted, hasSsids_of_entries some_⟩

namespace MeshOnly

/-- A gateway whose only SSID is the mesh backhaul. -/
def gateway : Json.Object :=
  [("interfaces", .arr [.obj [("ssids", .arr [.obj [("bss-mode", .str "mesh")]])]])]

def request : Json.Object :=
  [("ssid", .obj [("name", .str "home"), ("password", .str "password")])]

/-- The request succeeds, and no SSID was updated. -/
theorem meshOnly_succeeds :
    applySsidOverrides .strict gateway request = .ok gateway ∧ ¬ MeetsContract .strict gateway request := by
  have succeeds : applySsidOverrides .strict gateway request = .ok gateway := by rfl
  refine ⟨succeeds, ?_⟩
  intro promise
  obtain ⟨_, _, updated⟩ := promise.succeeds.mp ⟨gateway, succeeds⟩
  exact updated rfl

end MeshOnly

end UserPortal.Sdk.Gw
