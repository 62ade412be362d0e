import Mathlib.Data.List.Pairwise
import UserPortal.Framework.Routing

/-!
# The routers

Port of `src/RESTAPI/RESTAPI_routers.cpp`, with the templates and the methods which the classes of handlers
declare in their headers. No path matches templates of two classes, so that it does not matter in which order the
routers try them; and what a path binds are the parameters of its template, unless it spells one of them.
-/

namespace UserPortal.Routing
open Data

/-! ## Templates which are apart -/

section Apart

variable {pathItems paramItems paramItems' : List String}

/-- Two templates have different lengths, or different literals at one place. -/
def Apart : List String → List String → Prop
  | [], [] => False
  | item :: items, item' :: items' =>
    (isParameter item = false ∧ isParameter item' = false ∧ item ≠ item') ∨ Apart items items'
  | _, _ => True

instance decidableApart : (items items' : List String) → Decidable (Apart items items')
  | [], [] => .isFalse id
  | _ :: items, _ :: items' =>
    have := decidableApart items items'
    inferInstanceAs (Decidable (_ ∨ _))
  | [], _ :: _ => .isTrue trivial
  | _ :: _, [] => .isTrue trivial

lemma Apart.symm {items items' : List String} (apart : Apart items items') : Apart items' items := by
  induction items generalizing items' with
  | nil =>
    cases items' with
    | nil => cases apart
    | cons => trivial
  | cons item items ih =>
    cases items' with
    | nil => trivial
    | cons item' items' =>
      rcases apart with ⟨literal, literal', ne⟩ | apart
      · exact .inl ⟨literal', literal, ne.symm⟩
      · exact .inr (ih apart)

/-- No path matches two templates which are apart. -/
lemma Apart.not_matches (apart : Apart paramItems paramItems') (fits : Matches pathItems paramItems) :
    ¬ Matches pathItems paramItems' := by
  intro fits'
  induction fits generalizing paramItems' with
  | nil =>
    cases fits'
    cases apart
  | cons first _ ih =>
    cases fits' with
    | cons first' rest' =>
      rcases apart with ⟨literal, literal', ne⟩ | apart
      · exact ne ((first literal).symm.trans (first' literal'))
      · exact ih apart rest'

end Apart

section Tables

variable {Handler : Type} {handlers handlers' : List (Handler × List String)} {requestedPath : String}

/-- No path matches templates of two handlers. -/
def Unambiguous (handlers : List (Handler × List String)) : Prop :=
  handlers.Pairwise fun h h' => ∀ e ∈ h.2, ∀ e' ∈ h'.2, Apart (tokens e) (tokens e')

/-- A request goes to the handler whose templates it matches. -/
lemma Unambiguous.router_iff (apart : Unambiguous handlers) {handler : Handler} {bindings : BindingMap} :
    router requestedPath handlers = some (handler, bindings) ↔
      ∃ pathName e, (handler, pathName) ∈ handlers ∧ e ∈ pathName ∧
        Matches (tokens requestedPath) (tokens e) ∧ (parseBindings requestedPath pathName).2 = bindings := by
  rcases router_spec requestedPath handlers with ⟨skipped, found, pathName, others, split, _, fits, run⟩ | ⟨none, run⟩
  · obtain ⟨e, mem, fits⟩ := fits
    have here : (found, pathName) ∈ handlers := by
      rw [split]
      exact List.mem_append_right _ (List.mem_cons_self ..)
    rw [run, Option.some_inj, Prod.mk_inj]
    refine ⟨?_, ?_⟩
    · intro h
      obtain ⟨rfl, rfl⟩ := h
      exact ⟨pathName, e, here, mem, fits, rfl⟩
    · intro h
      obtain ⟨pathName', e', there, mem', fits', rfl⟩ := h
      -- two entries of the table which a path matches are the same entry
      have same : (found, pathName) = (handler, pathName') := by
        have symm : Std.Symm fun h h' : Handler × List String =>
            ∀ e ∈ h.2, ∀ e' ∈ h'.2, Apart (tokens e) (tokens e') :=
          ⟨fun h h' apart e mem e' mem' => (apart e' mem' e mem).symm⟩
        by_contra ne
        exact (List.Pairwise.forall apart here there ne e mem e' mem').not_matches fits fits'
      cases same
      exact ⟨rfl, rfl⟩
  · rw [run]
    refine iff_of_false nofun ?_
    intro h
    obtain ⟨pathName, e, here, mem, fits, _⟩ := h
    exact none _ here e mem fits

lemma Unambiguous.perm (apart : Unambiguous handlers) (perm : handlers'.Perm handlers) : Unambiguous handlers' :=
  List.Pairwise.perm apart perm.symm fun apart e mem e' mem' => (apart e' mem' e mem).symm

/-- The order of the handlers does not matter. -/
lemma Unambiguous.router_perm (apart : Unambiguous handlers) (perm : handlers'.Perm handlers) :
    router requestedPath handlers' = router requestedPath handlers := by
  refine Option.ext fun found => ?_
  rw [(apart.perm perm).router_iff, apart.router_iff]
  simp only [perm.mem_iff]

end Tables

/-! ## Bindings of a template -/

section Bindings

variable {pathItems paramItems : List String} {before endPoints : List String} {endPoint requestedPath : String}

/-- Templates of other lengths leave nothing. -/
lemma leftovers_of_lengths (other : ∀ e ∈ before, pathItems.length ≠ (tokens e).length) :
    leftovers pathItems before = [] := by
  refine List.flatMap_eq_nil_iff.mpr fun e mem => ?_
  rw [if_neg (other e mem)]

/-- The names of the parameters do not depend on the path. -/
lemma parameters_names (fits : Matches pathItems paramItems) :
    (parameters pathItems paramItems).map Prod.fst = (paramItems.filter isParameter).map paramName := by
  induction fits with
  | nil => rfl
  | @cons pathItem paramItem pathItems paramItems _ _ ih =>
    rw [parameters, List.zip_cons_cons, List.filter_cons, List.filter_cons]
    rw [parameters] at ih
    cases isParameter paramItem with
    | true =>
      rw [if_pos rfl, if_pos rfl, List.map_cons, List.map_cons, List.map_cons, ih]
    | false =>
      rw [if_neg Bool.false_ne_true, if_neg Bool.false_ne_true, ih]

/-- The names of the parameters of each template are distinct, and no two templates have the same length. -/
def Plain (endPoints : List String) : Prop :=
  endPoints.Pairwise (fun e e' => (tokens e).length ≠ (tokens e').length) ∧
    ∀ e ∈ endPoints, (((tokens e).filter isParameter).map paramName).Nodup

instance : Decidable (Plain endPoints) := inferInstanceAs (Decidable (_ ∧ _))

/-- No segment of the path spells the parameter of the template at its place. -/
def SpellsNone (pathItems paramItems : List String) : Prop :=
  ∀ item ∈ pathItems.zip paramItems, isParameter item.2 = true → item.1 ≠ item.2

/-- A path binds the parameters of its template, unless it spells one of them. -/
lemma Plain.bindings_iff (plain : Plain endPoints) (mem : endPoint ∈ endPoints)
    (fits : Matches (tokens requestedPath) (tokens endPoint)) :
    (parseBindings requestedPath endPoints).2.entries.Perm (parameters (tokens requestedPath) (tokens endPoint)) ↔
      SpellsNone (tokens requestedPath) (tokens endPoint) := by
  obtain ⟨lengths, names⟩ := plain
  obtain ⟨before, after, split⟩ := List.append_of_mem mem
  have other : ∀ e ∈ before, (tokens requestedPath).length ≠ (tokens e).length := by
    intro e here same
    rw [split] at lengths
    refine (List.pairwise_append.mp lengths).2.2 e here endPoint (List.mem_cons_self ..) ?_
    rw [← same]
    exact fits.length_eq
  have first : FirstMatch (tokens requestedPath) endPoints before endPoint :=
    ⟨⟨after, split⟩, fun e here fits => other e here fits.length_eq, fits⟩
  rw [parseBindings_first first, bindings_exact_iff fits]
  have nothing := leftovers_of_lengths other
  refine ⟨fun cleanly item mem param same => ?_, fun none => ⟨?_, ?_, ?_⟩⟩
  · have bound := cleanly.literally item mem param same
    rw [nothing] at bound
    cases bound
  · rw [parameters_names fits]
    exact names endPoint mem
  · rw [nothing]
    exact fun w mem => absurd mem List.not_mem_nil
  · exact fun item mem param same => absurd same (none item mem param)

end Bindings

/-! ## The table -/

/-- The classes of handlers. -/
inductive Route where
  | wifiClients
  | wiredClients
  | subscriber
  | subscriberDevices
  | oauth2
  | action
  | mfa
  | claim
  | systemCommand
  | systemConfiguration
  | stats
  | topology
  | webSocketServer
  | groupsList
  | groups
  | schedulesList
  | schedules
  | groupDevicesList
  | groupDevicesListV2
  | groupDevices
  | groupSchedulesList
  | groupSchedules
  | scheduleGroupsList
  | subscriberLocation
  deriving DecidableEq

namespace Route

/-- `PathName` -/
def pathName : Route → List String
  | wifiClients => ["/api/v1/wificlients"]
  | wiredClients => ["/api/v1/wiredclients"]
  | subscriber => ["/api/v1/subscriber"]
  | subscriberDevices => ["/api/v1/subscriber/devices/{mac}"]
  | oauth2 => ["/api/v1/oauth2/{token}", "/api/v1/oauth2"]
  | action => ["/api/v1/action"]
  | mfa => ["/api/v1/submfa"]
  | claim => ["/api/v1/claim"]
  | systemCommand => ["/api/v1/system"]
  | systemConfiguration => ["/api/v1/systemConfiguration"]
  | stats => ["/api/v1/stats/{mac}"]
  | topology => ["/api/v1/topology"]
  | webSocketServer => ["/api/v1/ws"]
  | groupsList => ["/api/v1/groups"]
  | groups => ["/api/v1/groups/{group_id}"]
  | schedulesList => ["/api/v1/schedules"]
  | schedules => ["/api/v1/schedules/{schedule_id}"]
  | groupDevicesList => ["/api/v1/groups/{group_id}/devices"]
  | groupDevicesListV2 => ["/api/v2/groups/{group_id}/devices"]
  | groupDevices => ["/api/v1/groups/{group_id}/devices/{client_mac}"]
  | groupSchedulesList => ["/api/v1/groups/{group_id}/schedules"]
  | groupSchedules => ["/api/v1/groups/{group_id}/schedules/{schedule_id}"]
  | scheduleGroupsList => ["/api/v1/schedules/{schedule_id}/groups"]
  | subscriberLocation => ["/api/v1/subscriber/location"]

/-- A class with its templates. -/
def entry (route : Route) : Route × List String := (route, route.pathName)

end Route

/-- The classes which `RESTAPI_ExtRouter` tries. -/
def extRoutes : List Route :=
  [.wifiClients, .wiredClients, .subscriber, .subscriberDevices, .oauth2, .action, .mfa, .claim, .systemCommand,
    .systemConfiguration, .stats, .topology, .webSocketServer, .groupsList, .groups, .schedulesList, .schedules,
    .groupDevicesList, .groupDevicesListV2, .groupDevices, .groupSchedulesList, .groupSchedules,
    .scheduleGroupsList, .subscriberLocation]

/-- The classes which `RESTAPI_IntRouter` tries. -/
def intRoutes : List Route :=
  [.wifiClients, .wiredClients, .subscriber, .subscriberDevices, .oauth2, .action, .mfa, .claim, .systemCommand,
    .systemConfiguration, .topology, .stats, .groupsList, .groups, .schedulesList, .schedules, .groupDevicesList,
    .groupDevicesListV2, .groupDevices, .groupSchedulesList, .groupSchedules, .scheduleGroupsList,
    .subscriberLocation]

/-- A router over some classes. -/
def routed (requestedPath : String) (routes : List Route) : Option (Route × BindingMap) :=
  router requestedPath (routes.map Route.entry)

/-- `RESTAPI_ExtRouter` -/
def extRouter (requestedPath : String) : Option (Route × BindingMap) := routed requestedPath extRoutes

/-- `RESTAPI_IntRouter` -/
def intRouter (requestedPath : String) : Option (Route × BindingMap) := routed requestedPath intRoutes

/-- A path goes to the class whose templates it matches, whatever the order of the classes. The internal router has
them all but the web sockets. The bindings are the parameters of the template, unless the path spells one. -/
structure Dispatches (requestedPath : String) : Prop where
  external : ∀ route bindings, extRouter requestedPath = some (route, bindings) ↔
    ∃ endPoint ∈ route.pathName, Matches (tokens requestedPath) (tokens endPoint) ∧
      (parseBindings requestedPath route.pathName).2 = bindings
  internal : ∀ route bindings, intRouter requestedPath = some (route, bindings) ↔
    extRouter requestedPath = some (route, bindings) ∧ route ≠ .webSocketServer
  reordered : ∀ routes : List Route, routes.Perm extRoutes → routed requestedPath routes = extRouter requestedPath
  bindings : ∀ route bindings endPoint, extRouter requestedPath = some (route, bindings) →
    endPoint ∈ route.pathName → Matches (tokens requestedPath) (tokens endPoint) →
    (bindings.entries.Perm (parameters (tokens requestedPath) (tokens endPoint)) ↔
      SpellsNone (tokens requestedPath) (tokens endPoint))

section Table

variable {requestedPath : String}

lemma mem_extRoutes (route : Route) : route ∈ extRoutes := by
  cases route <;> decide

lemma mem_intRoutes (route : Route) : route ∈ intRoutes ↔ route ≠ .webSocketServer := by
  cases route <;> decide

lemma plain_pathName (route : Route) : Plain route.pathName := by
  cases route <;> decide +kernel

lemma unambiguous_extRoutes : Unambiguous (extRoutes.map Route.entry) := by
  rw [Unambiguous]
  decide +kernel

lemma unambiguous_intRoutes : Unambiguous (intRoutes.map Route.entry) := by
  rw [Unambiguous]
  decide +kernel

/-- A router without ambiguities, by the classes it tries. -/
lemma routed_iff {routes : List Route} (apart : Unambiguous (routes.map Route.entry)) {route : Route}
    {bindings : BindingMap} :
    routed requestedPath routes = some (route, bindings) ↔
      route ∈ routes ∧ ∃ endPoint ∈ route.pathName, Matches (tokens requestedPath) (tokens endPoint) ∧
        (parseBindings requestedPath route.pathName).2 = bindings := by
  rw [routed, apart.router_iff]
  refine ⟨?_, ?_⟩
  · intro h
    obtain ⟨pathName, e, here, mem, fits, eq⟩ := h
    obtain ⟨tried, there, same⟩ := List.mem_map.mp here
    cases same
    exact ⟨there, e, mem, fits, eq⟩
  · intro h
    obtain ⟨here, e, mem, fits, eq⟩ := h
    exact ⟨route.pathName, e, List.mem_map_of_mem here, mem, fits, eq⟩

end Table

/-- So it is for every path. -/
theorem routers_dispatch (requestedPath : String) : Dispatches requestedPath where
  external := fun route bindings => by
    rw [extRouter, routed_iff unambiguous_extRoutes]
    exact and_iff_right (mem_extRoutes route)
  internal := fun route bindings => by
    rw [intRouter, extRouter, routed_iff unambiguous_intRoutes, routed_iff unambiguous_extRoutes, mem_intRoutes]
    refine ⟨?_, ?_⟩
    · intro tried
      exact ⟨⟨mem_extRoutes route, tried.2⟩, tried.1⟩
    · intro tried
      exact ⟨tried.2, tried.1.2⟩
  reordered := fun routes perm => unambiguous_extRoutes.router_perm (perm.map Route.entry)
  bindings := fun route bindings endPoint found mem fits => by
    obtain ⟨_, _, _, _, rfl⟩ := (routed_iff unambiguous_extRoutes).mp found
    exact (plain_pathName route).bindings_iff mem fits

end UserPortal.Routing
