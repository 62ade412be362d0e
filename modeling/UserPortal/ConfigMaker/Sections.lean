import UserPortal.ConfigMaker
import UserPortal.Json.Ordered

/-!
# Stored sections

A configuration is stored as a list of texts, one for each section which is an object or an array. The
loop of `AppendWeightedSections` clears its target first and goes through the names of the sections; what
it has stored parses and merges back to the sections of the configuration.
-/

namespace UserPortal.ConfigMaker

/-- The value is an object or an array. -/
def isSection : Json → Bool
  | .arr _ | .obj _ => true
  | _ => false

/-- The object- and array-valued part of a configuration. -/
def sectionsOf (config : Json.Object) : Json.Object := config.filter fun f => isSection f.2

section Store

variable (stringify : Json.Object → String)

/-- `AppendWeightedSection`: its result, and the target with the section appended. -/
def appendWeightedSection (config : Json.Object) (name : String)
    (out : List DeviceConfigurationElement) : Bool × List DeviceConfigurationElement :=
  match config.get? name with
  | some (.arr section_) =>
    (true, out ++ [{ name, weight := 1, configuration := stringify [(name, .arr section_)] }])
  | some (.obj section_) =>
    (true, out ++ [{ name, weight := 1, configuration := stringify [(name, .obj section_)] }])
  | _ => (true, out)

/-- The loop of `AppendWeightedSections` over the names of the sections. -/
def appendSections (config : Json.Object) :
    List String → List DeviceConfigurationElement → Bool × List DeviceConfigurationElement
  | [], provConfig => (true, provConfig)
  | sectionName :: sectionNames, provConfig =>
    if (config.getObject? sectionName).isSome || (config.getArray? sectionName).isSome then
      match appendWeightedSection stringify config sectionName provConfig with
      | (true, provConfig) => appendSections config sectionNames provConfig
      | (false, provConfig) => (false, provConfig)
    else appendSections config sectionNames provConfig

/-- `AppendWeightedSections` on a target vector. -/
def appendWeightedSectionsTo (config : Option Json.Object)
    (provConfig : List DeviceConfigurationElement) : Bool × List DeviceConfigurationElement :=
  match config with
  | none => (false, provConfig)
  -- the previous content of the target is cleared
  | some config => appendSections stringify config config.getNames []

end Store

/-! ## The loop -/

variable {stringify : Json.Object → String} {config : Json.Object}
  {provConfig : List DeviceConfigurationElement}

/-- One name appends its section, if it has one. -/
lemma appendSections_cons {field : String × Json} {names : List String}
    (found : config.get? field.1 = some field.2) :
    appendSections stringify config (field.1 :: names) provConfig =
      appendSections stringify config names (provConfig ++ (weightedSection stringify field).toList) := by
  obtain ⟨name, v⟩ := field
  have found : config.get? name = some v := found
  rw [appendSections, appendWeightedSection, Json.Object.getObject?, Json.Object.getArray?, found]
  cases v with
  | arr xs => rfl
  | obj o => rfl
  | _ =>
    rw [weightedSection, Option.toList_none, List.append_nil]
    rfl

/-- The loop appends the sections of the names it goes through. -/
lemma appendSections_eq {fields : Json.Object} (found : ∀ f ∈ fields, config.get? f.1 = some f.2) :
    appendSections stringify config fields.getNames provConfig =
      (true, provConfig ++ appendWeightedSections stringify fields) := by
  induction fields generalizing provConfig with
  | nil => rw [appendWeightedSections, List.filterMap_nil, List.append_nil]; rfl
  | cons f fields ih =>
    obtain ⟨first, rest⟩ := List.forall_mem_cons.mp found
    rw [Json.Object.getNames, List.map_cons, appendSections_cons first, ← Json.Object.getNames, ih rest,
      appendWeightedSections, appendWeightedSections, List.append_assoc]
    cases eq : weightedSection stringify f with
    | none => rw [List.filterMap_cons_none eq]; rfl
    | some e => rw [List.filterMap_cons_some eq]; rfl

/-- Whatever the target held, it then holds the sections of the configuration. -/
theorem appendWeightedSectionsTo_eq (ord : config.IsOrdered)
    (provConfig : List DeviceConfigurationElement) :
    appendWeightedSectionsTo stringify (some config) provConfig =
      (true, appendWeightedSections stringify config) :=
  appendSections_eq fun _ mem => ord.get?_of_mem mem

/-! ## Reading the sections -/

/-- The fields of one object set in another. -/
def merge (into o : Json.Object) : Json.Object := o.foldl (fun m f => m.set f.1 f.2) into

/-- The configuration which stored sections make up: their texts parsed, and merged. -/
def storedConfig (parse : String → Option Json) (elements : List DeviceConfigurationElement) :
    Option Json.Object :=
  (elements.mapM fun e => (parse e.configuration).bind Json.object?).map fun sections_ =>
    sections_.foldl merge []

/-- A key greater than all others is appended. -/
lemma set_of_greater {o : Json.Object} {k : String} (v : Json) (h : ∀ f ∈ o, f.1 < k) :
    o.set k v = o ++ [(k, v)] := by
  have new : o.has k = false := by
    rw [Bool.eq_false_iff]
    intro has
    obtain ⟨w, eq⟩ := Json.Object.has_iff.mp has
    exact String.lt_irrefl k (h _ (Json.Object.mem_of_get? eq))
  rw [Json.Object.set, new, if_neg Bool.false_ne_true]
  clear new
  induction o with
  | nil => rfl
  | cons f o ih =>
    obtain ⟨l, w⟩ := f
    obtain ⟨first, rest⟩ := List.forall_mem_cons.mp h
    rw [Json.Object.insert, if_neg fun lt => String.lt_irrefl l (String.lt_trans first lt), ih rest,
      List.cons_append]

/-- Sections which are merged in the order of their names follow one another. -/
lemma foldl_merge_singletons {o into : Json.Object} (ord : o.IsOrdered)
    (after : ∀ f ∈ into, ∀ g ∈ o, f.1 < g.1) :
    (o.map fun f => [f]).foldl merge into = into ++ o := by
  induction o generalizing into with
  | nil => rw [List.map_nil, List.foldl_nil, List.append_nil]
  | cons f o ih =>
    obtain ⟨k, v⟩ := f
    obtain ⟨first, _, rest⟩ := Json.Object.isOrdered_cons.mp ord
    have appended : merge into [(k, v)] = into ++ [(k, v)] :=
      set_of_greater v fun f mem => after f mem _ (List.mem_cons_self ..)
    rw [List.map_cons, List.foldl_cons, appended, ih rest, List.append_assoc, List.singleton_append]
    intro f mem g hg
    rcases List.mem_append.mp mem with mem | mem
    · exact after f mem g (List.mem_cons_of_mem _ hg)
    · cases List.mem_singleton.mp mem
      exact first g hg

/-- The sections are those which are stored. -/
lemma appendWeightedSections_eq_map (stringify : Json.Object → String) (config : Json.Object) :
    appendWeightedSections stringify config = (sectionsOf config).map fun f =>
      { name := f.1, weight := 1, configuration := stringify [f] } := by
  induction config with
  | nil => rfl
  | cons f config ih =>
    obtain ⟨k, v⟩ := f
    rw [appendWeightedSections] at ih ⊢
    rw [sectionsOf] at ih ⊢
    cases v with
    | arr xs => exact congrArg (_ :: ·) ih
    | obj o => exact congrArg (_ :: ·) ih
    | _ => exact ih

variable {print : Json → String} {parse : String → Option Json}

/-- The texts of single sections parse. -/
lemma mapM_sections (reads : Json.Reads parse print) {o : Json.Object} (ord : o.IsOrdered) :
    (o.map fun f => ({ name := f.1, weight := 1, configuration := print (.obj [f]) } :
      DeviceConfigurationElement)).mapM (fun e => (parse e.configuration).bind Json.object?) =
      some (o.map fun f => [f]) := by
  induction o with
  | nil => rfl
  | cons f o ih =>
    obtain ⟨_, value, rest⟩ := Json.Object.isOrdered_cons.mp ord
    have single : Json.Object.IsOrdered [f] :=
      Json.Object.isOrdered_cons.mpr ⟨nofun, value, Json.Object.isOrdered_nil⟩
    rw [List.map_cons, List.mapM_cons, reads _ single, ih rest]
    rfl

/-- What is stored reads back as the sections of the configuration. -/
lemma storedConfig_appendWeightedSections (reads : Json.Reads parse print) (ord : config.IsOrdered) :
    storedConfig parse (appendWeightedSections (fun o => print (.obj o)) config) =
      some (sectionsOf config) := by
  have ordered : (sectionsOf config).IsOrdered := ord.filter _
  have none_ : ∀ f ∈ ([] : Json.Object), ∀ g ∈ sectionsOf config, f.1 < g.1 := by
    intro f mem
    cases mem
  rw [storedConfig, appendWeightedSections_eq_map, mapM_sections reads ordered, Option.map_some,
    foldl_merge_singletons ordered none_, List.nil_append]

/-- The sections which are stored reproduce the configuration, whatever the target held before: one
element for each section, of its own name and of the default weight, and their texts merge to the
sections. Storing them again changes nothing. -/
theorem appendWeightedSections_reproduces (reads : Json.Reads parse print) (ord : config.IsOrdered)
    (provConfig : List DeviceConfigurationElement) :
    ∃ stored,
      appendWeightedSectionsTo (fun o => print (.obj o)) (some config) provConfig = (true, stored) ∧
      (stored.map fun e => e.name) = (sectionsOf config).getNames ∧
      (stored.map fun e => e.name).Nodup ∧
      (∀ e ∈ stored, e.weight = 1) ∧
      storedConfig parse stored = some (sectionsOf config) ∧
      appendWeightedSectionsTo (fun o => print (.obj o)) (some config) stored = (true, stored) := by
  have names : ((appendWeightedSections (fun o => print (.obj o)) config).map fun e => e.name) =
      (sectionsOf config).getNames := by
    rw [appendWeightedSections_eq_map, List.map_map]
    rfl
  refine ⟨_, appendWeightedSectionsTo_eq ord _, names, ?_, ?_,
    storedConfig_appendWeightedSections reads ord, appendWeightedSectionsTo_eq ord _⟩
  · rw [names]
    obtain ⟨increasing, _⟩ := Json.Object.isOrdered_iff_names.mp (ord.filter fun f => isSection f.2)
    exact increasing.imp String.ne_of_lt
  · intro e mem
    rw [appendWeightedSections_eq_map] at mem
    obtain ⟨f, _, rfl⟩ := List.mem_map.mp mem
    rfl

/-- The section `uuid` is not stored, and a section which was stored before is gone. -/
theorem appendWeightedSections_reproduces_two :
    ∃ stored,
      appendWeightedSectionsTo (fun o => Json.condense (.obj o))
        (some [("interfaces", .arr [.obj [("role", .str "upstream")]]), ("metrics", .obj []),
          ("uuid", .int 1)])
        [{ name := "radios", weight := 1, configuration := "" }] = (true, stored) ∧
      (stored.map fun e => e.name) = ["interfaces", "metrics"] ∧
      storedConfig Json.ofText stored =
        some [("interfaces", .arr [.obj [("role", .str "upstream")]]), ("metrics", .obj [])] := by
  have ord : Json.Object.IsOrdered [("interfaces", .arr [.obj [("role", .str "upstream")]]),
      ("metrics", .obj []), ("uuid", .int 1)] := by
    decide
  obtain ⟨stored, eq, names, _, _, read, _⟩ := appendWeightedSections_reproduces Json.reads_condense ord
    [{ name := "radios", weight := 1, configuration := "" }]
  exact ⟨stored, eq, names, read⟩

end UserPortal.ConfigMaker
