import UserPortal.Data.Agree
import UserPortal.RestApi.TopologyHandler

/-!
# Whose equipment a topology response shows

A topology response depends on the nodes of the subscriber and on the mesh and wired edges between
them: what the topology service replies about other devices in these arrays is dropped before anything
else reads it. Edges of another type are passed on.
-/

namespace UserPortal.RestApi.TopologyHandler
open Interaction Program Calendar Data Sdk ParentalControl

section Equipment

variable (devices : List Gw.SubscriberDevice)

/-- The serial number of a device of the subscriber. -/
def Listed (serial : String) : Prop := ∃ device ∈ devices, device.serialNumber = serial

/-- A node which is a device of the subscriber. -/
def OwnNode (j : Json) : Prop :=
  ∃ (node : Json.Object) (serial : String),
    j = .obj node ∧ node.getString? "serial" = some serial ∧ Listed devices serial

/-- An edge between devices of the subscriber. -/
def OwnEdge (j : Json) : Prop :=
  ∃ (edge : Json.Object) (fromSerial toSerial : String),
    j = .obj edge ∧ edge.getString? "from" = some fromSerial ∧ edge.getString? "to" = some toSerial ∧
      Listed devices fromSerial ∧ Listed devices toSerial

/-- Two replies differ only in nodes which are not the subscriber's, and in edges of these types which
are not between its devices. -/
inductive SameFor (types : String → Prop) : Json.Object → Json.Object → Prop where
  | refl (t : Json.Object) : SameFor types t t
  | nodes {t t' : Json.Object} {xs ys : List Json} :
    t.getArray? "nodes" = some xs →
    AgreeOn (OwnNode devices) xs ys →
    SameFor types (t.set "nodes" (.arr ys)) t' →
    SameFor types t t'
  | edges {t t' edges : Json.Object} {type : String} {xs ys : List Json} :
    types type →
    t.getObject? "edges" = some edges →
    edges.getArray? type = some xs →
    AgreeOn (OwnEdge devices) xs ys →
    SameFor types (t.set "edges" (.obj (edges.set type (.arr ys)))) t' →
    SameFor types t t'

/-- The nodes of a response are the subscriber's, and its edges of these types are between them. -/
structure ShowsOwn (types : String → Prop) (response : Json.Object) : Prop where
  nodes : ∀ nodes, response.getArray? "nodes" = some nodes → ∀ node ∈ nodes, OwnNode devices node
  edges : ∀ edges type xs, response.getObject? "edges" = some edges → types type →
    edges.getArray? type = some xs → ∀ edge ∈ xs, OwnEdge devices edge

end Equipment

section Kept

variable {devices : List Gw.SubscriberDevice}

/-- An allowed serial is one of the list. -/
lemma listed_of_allowed {serial : String}
    (h : (buildAllowedSerialsSet devices).contains serial = true) : Listed devices serial := by
  have mem := (List.mem_filter.mp (List.contains_iff_mem.mp h)).1
  obtain ⟨device, mem, eq⟩ := List.mem_map.mp mem
  exact ⟨device, mem, eq⟩

/-- A node is only kept where it is the subscriber's. -/
lemma ownNode_of_keeps {node : Json} (h : keepsNode (buildAllowedSerialsSet devices) node = true) :
    OwnNode devices node := by
  rw [keepsNode] at h
  split at h
  case h_1 => cases h
  case h_2 o eq =>
    split at h
    case h_1 serial has => exact ⟨o, serial, Json.object?_eq_some.mp eq, has, listed_of_allowed h⟩
    case h_2 => cases h

/-- An edge is only kept where it is between devices of the subscriber. -/
lemma ownEdge_of_keeps {edge : Json} (h : keepsEdge (buildAllowedSerialsSet devices) edge = true) :
    OwnEdge devices edge := by
  rw [keepsEdge] at h
  split at h
  case h_1 => cases h
  case h_2 o eq =>
    split at h
    case h_1 fromSerial toSerial hasFrom hasTo =>
      obtain ⟨h1, h2⟩ := Bool.and_eq_true_iff.mp h
      exact ⟨o, fromSerial, toSerial, Json.object?_eq_some.mp eq, hasFrom, hasTo, listed_of_allowed h1,
        listed_of_allowed h2⟩
    case h_2 => cases h

end Kept

/-! ## Filtering an array -/

section FilterArray

variable {keep : Json → Bool} {o : Json.Object} {key key' : String} {xs ys : List Json} {v : Json}

/-- What filtering an array leaves. -/
lemma filterArray_eq (h : o.getArray? key = some xs) :
    filterArray keep o key = o.set key (.arr (xs.filter keep)) := by
  rw [filterArray, h]

/-- The array which is filtered. -/
lemma getArray?_filterArray_self :
    (filterArray keep o key).getArray? key = (o.getArray? key).map fun xs => xs.filter keep := by
  rw [filterArray]
  split
  case h_1 xs h => rw [h, Json.Object.getArray?_set_self, Option.map_some]
  case h_2 h => rw [h, Option.map_none]

/-- Other fields stay. -/
lemma get?_filterArray_of_ne (ne : key ≠ key') :
    (filterArray keep o key).get? key' = o.get? key' := by
  rw [filterArray]
  split
  case h_1 => exact Json.Object.get?_set_of_ne o _ ne
  case h_2 => rfl

/-- Other arrays stay. -/
lemma getArray?_filterArray_of_ne (ne : key ≠ key') :
    (filterArray keep o key).getArray? key' = o.getArray? key' := by
  rw [Json.Object.getArray?, Json.Object.getArray?, get?_filterArray_of_ne ne]

/-- Other objects stay. -/
lemma getObject?_filterArray_of_ne (ne : key ≠ key') :
    (filterArray keep o key).getObject? key' = o.getObject? key' := by
  rw [Json.Object.getObject?, Json.Object.getObject?, get?_filterArray_of_ne ne]

/-- Elements which are dropped make no difference. -/
lemma filterArray_set_self (h : o.getArray? key = some xs) (agree : xs.filter keep = ys.filter keep) :
    filterArray keep (o.set key (.arr ys)) key = filterArray keep o key := by
  rw [filterArray_eq (Json.Object.getArray?_set_self o key ys), filterArray_eq h, agree,
    Json.Object.set_set (Json.Object.has_of_getArray? h)]

/-- A key which is present may be set before or after another is filtered. -/
lemma filterArray_set_of_ne (ne : key ≠ key') (has : o.has key' = true) :
    filterArray keep (o.set key' v) key = (filterArray keep o key).set key' v := by
  unfold filterArray
  rw [Json.Object.getArray?_set_of_ne o v ne.symm]
  split
  case h_1 xs h =>
    exact Json.Object.set_comm ne.symm has (Json.Object.has_of_getArray? h) _ _
  case h_2 => rfl

/-- Elements which are dropped make no difference to a loop over the keys. -/
lemma foldl_filterArray_set (keys : List String) (mem : key ∈ keys)
    (h : o.getArray? key = some xs) (agree : xs.filter keep = ys.filter keep) :
    keys.foldl (filterArray keep) (o.set key (.arr ys)) = keys.foldl (filterArray keep) o := by
  induction keys generalizing o with
  | nil => cases mem
  | cons key' keys ih =>
    rw [List.foldl_cons, List.foldl_cons]
    by_cases e : key' = key
    · rw [e, filterArray_set_self h agree]
    · have mem : key ∈ keys := by
        rcases List.mem_cons.mp mem with e' | mem
        · exact absurd e'.symm e
        · exact mem
      rw [filterArray_set_of_ne e (Json.Object.has_of_getArray? h)]
      exact ih mem ((getArray?_filterArray_of_ne e).trans h)

/-- After a loop over the keys their arrays hold elements which are kept. -/
lemma keep_of_foldl_filterArray (keys : List String) (mem : key ∈ keys)
    (h : (keys.foldl (filterArray keep) o).getArray? key = some xs) : ∀ x ∈ xs, keep x = true := by
  -- what is kept once stays so: filtering never adds an element
  have stays : ∀ (keys : List String) (o : Json.Object),
      (∀ ys, o.getArray? key = some ys → ∀ y ∈ ys, keep y = true) →
      ∀ ys, (keys.foldl (filterArray keep) o).getArray? key = some ys → ∀ y ∈ ys, keep y = true := by
    intro keys
    induction keys with
    | nil => exact fun o h => h
    | cons key' keys ih =>
      intro o h
      apply ih
      intro ys hys
      by_cases e : key' = key
      · rw [e, getArray?_filterArray_self] at hys
        obtain ⟨zs, hzs, rfl⟩ := Option.map_eq_some_iff.mp hys
        exact fun y hy => h zs hzs y (List.mem_filter.mp hy).1
      · rw [getArray?_filterArray_of_ne e] at hys
        exact h ys hys
  induction keys generalizing o with
  | nil => cases mem
  | cons key' keys ih =>
    rw [List.foldl_cons] at h
    rcases List.mem_cons.mp mem with rfl | mem
    · refine stays keys _ ?_ xs h
      intro ys hys
      rw [getArray?_filterArray_self] at hys
      obtain ⟨zs, _, rfl⟩ := Option.map_eq_some_iff.mp hys
      exact fun y hy => (List.mem_filter.mp hy).2
    · exact ih mem h

end FilterArray

/-! ## Two replies -/

section Replies

variable {devices : List Gw.SubscriberDevice} {t t' edges : Json.Object} {type : String}
  {xs ys : List Json}

/-- Nodes which are not the subscriber's do not count. -/
lemma filterTopologyNodes_nodes (h : t.getArray? "nodes" = some xs)
    (agree : AgreeOn (OwnNode devices) xs ys) :
    filterTopologyNodes devices (t.set "nodes" (.arr ys)) = filterTopologyNodes devices t :=
  filterArray_set_self h (agree.filter_eq fun _ => ownNode_of_keeps)

/-- Nor do edges which are not his. -/
lemma filterTopologyEdges_edges (mem : type ∈ edgeTypes) (h1 : t.getObject? "edges" = some edges)
    (h2 : edges.getArray? type = some xs) (agree : AgreeOn (OwnEdge devices) xs ys) :
    filterTopologyEdges devices (t.set "edges" (.obj (edges.set type (.arr ys)))) =
      filterTopologyEdges devices t := by
  unfold filterTopologyEdges
  rw [Json.Object.getObject?_set_self, h1]
  dsimp only
  rw [Json.Object.set_set (Json.Object.has_of_getObject? h1),
    foldl_filterArray_set edgeTypes mem h2 (agree.filter_eq fun _ => ownEdge_of_keeps)]

/-- The filters do not tell apart two replies which are the same for the subscriber. -/
lemma filtered_eq (h : SameFor devices (fun type => type ∈ edgeTypes) t t') :
    filterTopologyEdges devices (filterTopologyNodes devices t) =
      filterTopologyEdges devices (filterTopologyNodes devices t') := by
  induction h with
  | refl t => rfl
  | nodes h agree _ ih => rw [← ih, filterTopologyNodes_nodes h agree]
  | @edges t t' edges type xs ys mem h1 h2 agree _ ih =>
    have nodes : filterTopologyNodes devices (t.set "edges" (.obj (edges.set type (.arr ys)))) =
        (filterTopologyNodes devices t).set "edges" (.obj (edges.set type (.arr ys))) :=
      filterArray_set_of_ne (by decide) (Json.Object.has_of_getObject? h1)
    have h1 : (filterTopologyNodes devices t).getObject? "edges" = some edges :=
      (getObject?_filterArray_of_ne (by decide)).trans h1
    rw [← ih, nodes, filterTopologyEdges_edges mem h1 h2 agree]

end Replies

/-! ## What a response shows -/

section Shows

variable {devices : List Gw.SubscriberDevice} {types : String → Prop} {t r r' : Json.Object}

/-- What a response shows depends on its nodes and edges. -/
lemma ShowsOwn.congr (h : ShowsOwn devices types r) (nodes : r'.get? "nodes" = r.get? "nodes")
    (edges : r'.get? "edges" = r.get? "edges") : ShowsOwn devices types r' := by
  refine ⟨fun xs hxs => ?_, fun edges' type xs hedges => ?_⟩
  · rw [Json.Object.getArray?, nodes] at hxs
    exact h.nodes xs hxs
  · rw [Json.Object.getObject?, edges] at hedges
    exact h.edges edges' type xs hedges

/-- After the filters only the subscriber's equipment is left. -/
lemma filtered_showsOwn :
    ShowsOwn devices (fun type => type ∈ edgeTypes)
      (filterTopologyEdges devices (filterTopologyNodes devices t)) := by
  have nodes : ∀ xs, (filterTopologyNodes devices t).getArray? "nodes" = some xs →
      ∀ node ∈ xs, OwnNode devices node := by
    intro xs hxs node mem
    rw [filterTopologyNodes, getArray?_filterArray_self] at hxs
    obtain ⟨ys, _, rfl⟩ := Option.map_eq_some_iff.mp hxs
    exact ownNode_of_keeps (List.mem_filter.mp mem).2
  rw [filterTopologyEdges]
  split
  case h_1 absent =>
    refine ⟨nodes, fun edges type xs hedges => ?_⟩
    rw [absent] at hedges
    cases hedges
  case h_2 edges _ =>
    refine ⟨fun xs hxs => ?_, fun edges' type xs hedges mem hxs edge he => ?_⟩
    · rw [Json.Object.getArray?_set_of_ne _ _ (by decide)] at hxs
      exact nodes xs hxs
    · rw [Json.Object.getObject?_set_self] at hedges
      cases hedges
      exact ownEdge_of_keeps (keep_of_foldl_filterArray edgeTypes mem hxs edge he)

/-- Tagging the historical clients leaves the other fields. -/
lemma tagHistoricalDevices_get? (conv : Conversions) (blockedMacMap : OrderedMap String String)
    {key : String} (h1 : "historicalClients" ≠ key) (h2 : "historicalDevices" ≠ key) :
    (tagHistoricalDevices conv blockedMacMap t).get? key = t.get? key := by
  rw [tagHistoricalDevices]
  split
  case h_1 => rfl
  case h_2 => rw [Json.Object.get?_remove_of_ne _ h2, Json.Object.get?_set_of_ne _ _ h1]

/-- Flagging the clients of a node keeps its serial number. -/
lemma tagNode_own (blockedMacMap : OrderedMap String String) {node : Json} (h : OwnNode devices node) :
    OwnNode devices (tagNode blockedMacMap node) := by
  obtain ⟨o, serial, rfl, has, listed⟩ := h
  rw [tagNode, mapArray]
  rw [Json.object?]
  dsimp only
  split
  case h_1 => exact ⟨o, serial, rfl, has, listed⟩
  case h_2 elements _ =>
    refine ⟨_, serial, rfl, ?_, listed⟩
    rw [Json.Object.getString?_set_of_ne _ _ (by decide)]
    exact has

/-- Tagging the nodes brings none in. -/
lemma tagNodes_showsOwn (blockedMacMap : OrderedMap String String) (h : ShowsOwn devices types r) :
    ShowsOwn devices types (tagNodes blockedMacMap r) := by
  rw [tagNodes]
  split
  case h_1 => exact h
  case h_2 nodes hnodes =>
    refine ⟨fun xs hxs node mem => ?_, fun edges type xs hedges => ?_⟩
    · rw [Json.Object.getArray?_set_self] at hxs
      cases hxs
      obtain ⟨node, before, rfl⟩ := List.mem_map.mp mem
      exact tagNode_own blockedMacMap (h.nodes nodes hnodes node before)
    · rw [Json.Object.getObject?_set_of_ne _ _ (by decide)] at hedges
      exact h.edges edges type xs hedges

end Shows

/-- Two replies which are the same for the subscriber give the same response, whatever the gateway and
the clock answer, and a response shows the subscriber's equipment only: nodes, and edges of the types
which are filtered. -/
theorem finalizeTopologyResponse_own (conv : Conversions) (parser : DateTimeParser)
    (locateZone : String → Option Zone) (devices : List Gw.SubscriberDevice)
    (gatewaySerial timezone : String) :
    (∀ t t', SameFor devices (fun type => type ∈ edgeTypes) t t' → ∀ tr response,
      Trace (finalizeTopologyResponse conv parser locateZone devices gatewaySerial timezone t) tr
          response ↔
        Trace (finalizeTopologyResponse conv parser locateZone devices gatewaySerial timezone t') tr
          response) ∧
    ∀ t tr response,
      Trace (finalizeTopologyResponse conv parser locateZone devices gatewaySerial timezone t) tr
          response →
        ShowsOwn devices (fun type => type ∈ edgeTypes) response := by
  refine ⟨fun t t' same tr response => ?_, fun t tr response h => ?_⟩
  · unfold finalizeTopologyResponse
    dsimp only
    rw [filtered_eq same]
  · obtain ⟨tr1, tr2, tagged, rfl, h1, h2⟩ := trace_bind.mp h
    obtain ⟨_, rfl⟩ := trace_pure.mp h2
    obtain ⟨tr3, tr4, blockedMacMap, rfl, _, h4⟩ := trace_bind.mp h1
    obtain ⟨_, rfl⟩ := trace_pure.mp h4
    have historical : ShowsOwn devices (fun type => type ∈ edgeTypes)
        (tagHistoricalDevices conv blockedMacMap
          (filterTopologyEdges devices (filterTopologyNodes devices t))) :=
      filtered_showsOwn.congr (tagHistoricalDevices_get? conv _ (by decide) (by decide))
        (tagHistoricalDevices_get? conv _ (by decide) (by decide))
    exact (tagNodes_showsOwn blockedMacMap historical).congr
      (Json.Object.get?_set_of_ne _ _ (by decide)) (Json.Object.get?_set_of_ne _ _ (by decide))

namespace OtherEdgeType

def devices : List Gw.SubscriberDevice := [{ serialNumber := "aaaaaaaaaaaa", deviceGroup := "olg" }]

/-- A reply with these edges of a type which is not filtered. -/
def reply (wireless : List Json) : Json.Object :=
  [("edges", .obj [("wireless", .arr wireless)]), ("nodes", .arr [])]

/-- An edge between devices of another subscriber. -/
def edge : Json := .obj [("from", .str "bbbbbbbbbbbb"), ("to", .str "cccccccccccc")]

def finalize (t : Json.Object) : Portal Json.Object :=
  finalizeTopologyResponse Conversions.strict .canonical (fun _ => none) devices "aaaaaaaaaaaa" "UTC" t

/-- The gateway does not answer. -/
def events : List Portal.Event :=
  [⟨.call ⟨.get, uSERVICE_GATEWAY, "/api/v1/device/aaaaaaaaaaaa", [], [], 1000, ""⟩, none⟩]

/-- The answer with one edge is finalised. -/
lemma trace_events (wireless : List Json) :
    Trace (finalize (reply wireless)) events ((reply wireless).set "timezone" (.str "UTC")) :=
  trace_iff_replay.mpr rfl

/-- Its edge leads to foreign equipment. -/
lemma edge_notOwn : ¬ OwnEdge devices edge := by
  intro own
  obtain ⟨o, fromSerial, toSerial, same, hasFrom, _, ⟨device, mem, eq⟩, _⟩ := own
  cases same
  cases hasFrom
  rw [List.mem_singleton.mp mem] at eq
  exact absurd eq (by decide)

/-- An edge of another type tells two replies apart, and is shown. -/
theorem wireless_shown :
    (¬ ∀ t t', SameFor devices (fun _ => True) t t' → ∀ tr response,
      Trace (finalize t) tr response ↔ Trace (finalize t') tr response) ∧
    ¬ ∀ t tr response, Trace (finalize t) tr response → ShowsOwn devices (fun _ => True) response := by
  refine ⟨fun same => ?_, fun shown => ?_⟩
  · have has : Json.Object.getArray? [("wireless", .arr [edge])] "wireless" = some [edge] := rfl
    have differ : SameFor devices (fun _ => True) (reply [edge]) (reply []) :=
      .edges trivial rfl has (.drop edge_notOwn .nil) (.refl _)
    have h := (same _ _ differ _ _).mp (trace_events [edge])
    exact absurd (h.unique (trace_events [])) (by decide)
  · have own := shown _ _ _ (trace_events [edge])
    exact edge_notOwn (own.edges _ "wireless" _ rfl trivial rfl edge (.head _))

end OtherEdgeType

end UserPortal.RestApi.TopologyHandler
