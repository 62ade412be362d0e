import UserPortal.Data.FirstOccurrences
import UserPortal.Data.Words
import UserPortal.Framework.StringTokenizer
import UserPortal.RestObjects.SubObjects

/-!
# The default record of a subscriber

Port of `BuildDefaultSubscriberInfo` and `AddAccessPoint` of `src/storage/storage_subscriber_info.cpp`: a
record is made up from what is known of the user, and of the devices which are provisioned.

The first part of the name becomes the first name, and the last name is assigned each later part in turn, so
that the last one stays: `buildDefaultSubscriberInfo_keepsAll_iff`.
-/

namespace UserPortal.Storage
open Data SubObjects

variable {Rest : Type} [Inhabited Rest]

/-- The members of a `UserInfo` which are used, with the numbers of its mobiles. -/
structure SubscribedUser where
  id : String := ""
  name : String := ""
  email : String := ""
  mobiles : List String := []

/-- The members of a `ProvObjects::SubscriberDevice` which are used, with the id of its `info`. -/
structure ProvisionedDevice where
  id : String := ""
  serialNumber : String := ""
  deviceType : String := ""

/-- `AddAccessPoint` -/
def addAccessPoint (si : SubscriberInfo Rest) (macAddress deviceType : String)
    (provisionedDevice : ProvisionedDevice) : SubscriberInfo Rest :=
  if si.accessPoints.list.any fun ap => ap.macAddress = macAddress then si
  else
    let ap : AccessPoint Rest := {
      name := "Access Point #" ++ toString (si.accessPoints.list.length + 1)
      macAddress
      serialNumber := macAddress
      id := provisionedDevice.id
      deviceType }
    { si with accessPoints.list := si.accessPoints.list ++ [ap] }

/-- The loop over the parts of the name, from the `i`-th one on. -/
def fillNames : Nat → List String → SubscriberInfo Rest → SubscriberInfo Rest
  | _, [], si => si
  | i, part :: parts, si =>
    if i = 0 then fillNames (i + 1) parts { si with firstName := part }
    else fillNames (i + 1) parts { si with lastName := part ++ " " }

/-- What the name of a subscriber is taken from. -/
def nameSource (user : SubscribedUser) : String := if user.name = "" then user.email else user.name

/-- `NameParts` -/
def nameParts (user : SubscribedUser) : List String := StringTokenizer.tokens (nameSource user) " @._-"

/-- The names of the record. -/
def fillName (user : SubscribedUser) (si : SubscriberInfo Rest) : SubscriberInfo Rest :=
  if 0 < (nameParts user).length then
    let si := fillNames 0 (nameParts user) si
    { si with firstName := Utils.trim si.firstName, lastName := Utils.trim si.lastName }
  else { si with firstName := user.name }

/-- `BuildDefaultSubscriberInfo` -/
def buildDefaultSubscriberInfo (now : Nat) (user : SubscribedUser) (si : SubscriberInfo Rest)
    (devices : List ProvisionedDevice) : SubscriberInfo Rest :=
  let si := { si with id := user.id, created := now, modified := now, userId := user.email }
  let si := fillName user si
  let si :=
    match user.mobiles with
    | [] => si
    | number :: _ => { si with phoneNumber := number }
  devices.foldl (fun si device => addAccessPoint si device.serialNumber device.deviceType device) si

/-! ## Words of names -/

/-- The words of a name lie between the characters at which it is parted and white space. -/
def isBreak (c : Char) : Bool := " @._-".toList.contains c || Utils.isSpace c

/-- The words of a name. -/
def nameWords (name : String) : List (List Char) := words isBreak name.toList

lemma nameWords_trim (name : String) : nameWords (Utils.trim name) = nameWords name := by
  have spaces : ∀ c, Utils.isSpace c → isBreak c := by
    intro c space
    rw [isBreak, space, Bool.or_true]
  rw [nameWords, Utils.trim, String.toList_ofList]
  exact (words_rdropWhile spaces _).trans (words_dropWhile spaces _)

lemma nameWords_append_space (name : String) : nameWords (name ++ " ") = nameWords name := by
  rw [nameWords, String.toList_append]
  exact words_concat rfl _

/-- The words of the parts of a name are those of the name. -/
lemma nameWords_nameParts (user : SubscribedUser) :
    (nameParts user).flatMap nameWords = nameWords (nameSource user) := by
  rw [nameParts, StringTokenizer.tokens]
  by_cases empty : nameSource user = ""
  · rw [if_pos empty, empty]
    rfl
  · have separators : ∀ c, " @._-".toList.contains c → isBreak c := by
      intro c separator
      rw [isBreak, separator, Bool.true_or]
    rw [if_neg empty, List.flatMap_map, nameWords, ← words_splitOnP separators]
    congr 1
    funext part
    rw [nameWords, String.toList_ofList]

/-! ## Names -/

section Names

variable {user : SubscribedUser} {si : SubscriberInfo Rest} {first : String} {parts devices : List String}

/-- Of the later parts, the last one stays. -/
lemma fillNames_succ (n : Nat) (parts : List String) (si : SubscriberInfo Rest) :
    fillNames (n + 1) parts si =
      { si with lastName := (parts.getLast?.map fun part => part ++ " ").getD si.lastName } := by
  induction parts generalizing n si with
  | nil => rfl
  | cons part parts ih =>
    rw [fillNames, if_neg (Nat.succ_ne_zero n), ih, List.getLast?_cons]
    cases parts.getLast? <;> rfl

/-- The words of the names of a new record are those of the first part and of the last one. -/
lemma nameWords_fillName (parted : nameParts user = first :: parts) (new : si.lastName = "") :
    nameWords (fillName user si).firstName = nameWords first ∧
      nameWords (fillName user si).lastName = (parts.getLast?.map nameWords).getD [] := by
  have some : 0 < (nameParts user).length := by
    rw [parted]
    exact Nat.succ_pos _
  rw [fillName, if_pos some, parted, fillNames, if_pos rfl, fillNames_succ]
  refine ⟨nameWords_trim first, ?_⟩
  rw [nameWords_trim]
  cases parts.getLast? with
  | none =>
    show nameWords si.lastName = []
    rw [new]
    rfl
  | some last => exact nameWords_append_space last

/-- The parts of a name strictly between the first one and the last one. -/
def middleParts (user : SubscribedUser) : List String := (nameParts user).tail.dropLast

/-- The words of a list of parts are those of the last one if and only if no other one has a word. -/
lemma getLast_words_iff (parts : List String) :
    (parts.getLast?.map nameWords).getD [] = parts.flatMap nameWords ↔
      ∀ part ∈ parts.dropLast, nameWords part = [] := by
  rcases List.eq_nil_or_concat parts with none | ⟨before, last, eq⟩
  · rw [none]
    exact iff_of_true rfl (fun part mem => absurd mem List.not_mem_nil)
  · rw [eq, List.concat_eq_append, List.getLast?_append, List.dropLast_concat, List.flatMap_append,
      List.flatMap_singleton, ← List.flatMap_eq_nil_iff]
    exact List.self_eq_append_left

lemma fillName_words_iff (new : si.lastName = "") :
    nameWords (fillName user si).firstName ++ nameWords (fillName user si).lastName =
        nameWords (nameSource user) ↔
      ∀ part ∈ middleParts user, nameWords part = [] := by
  rw [middleParts, ← nameWords_nameParts]
  cases parted : nameParts user with
  | nil =>
    have none : nameSource user = "" := by
      by_contra some
      rw [nameParts, StringTokenizer.tokens, if_neg some, List.map_eq_nil_iff] at parted
      exact List.splitOnP_ne_nil _ _ parted
    have empty : user.name = "" := by
      rw [nameSource] at none
      by_contra some
      rw [if_neg some] at none
      exact some none
    have noParts : ¬ 0 < (nameParts user).length := by
      rw [parted]
      exact Nat.lt_irrefl 0
    refine iff_of_true ?_ (fun part mem => absurd mem List.not_mem_nil)
    rw [fillName, if_neg noParts, empty]
    show nameWords si.lastName = []
    rw [new]
    rfl
  | cons first parts =>
    obtain ⟨firstName, lastName⟩ := nameWords_fillName parted new
    rw [firstName, lastName, List.flatMap_cons, List.append_cancel_left_eq, getLast_words_iff]
    rfl

end Names

/-! ## Access points -/

/-- The access points are one for each serial number, in the order of the devices, and numbered. -/
structure ListsDevices (list : List (AccessPoint Rest)) (serialNumbers : List String) : Prop where
  macAddresses : list.map AccessPoint.macAddress = serialNumbers.eraseDups
  names : list.map AccessPoint.name = (List.range list.length).map fun i => "Access Point #" ++ toString (i + 1)

lemma ListsDevices.addAccessPoint {si : SubscriberInfo Rest} {serialNumbers : List String}
    (lists : ListsDevices si.accessPoints.list serialNumbers) (device : ProvisionedDevice) :
    ListsDevices (addAccessPoint si device.serialNumber device.deviceType device).accessPoints.list
      (serialNumbers ++ [device.serialNumber]) := by
  have seen : (si.accessPoints.list.any fun ap => ap.macAddress = device.serialNumber) = true ↔
      device.serialNumber ∈ serialNumbers := by
    rw [← List.mem_eraseDups, ← lists.macAddresses, List.any_eq_true, List.mem_map]
    simp only [decide_eq_true_eq]
  rw [Storage.addAccessPoint]
  by_cases old : device.serialNumber ∈ serialNumbers
  · rw [if_pos (seen.mpr old)]
    refine ⟨?_, lists.names⟩
    rw [lists.macAddresses, eraseDups_concat, if_pos old]
  · rw [if_neg (mt seen.mp old)]
    refine ⟨?_, ?_⟩
    · rw [List.map_append, lists.macAddresses, eraseDups_concat, if_neg old]
      rfl
    · rw [List.map_append, lists.names, List.length_append, List.length_singleton, List.range_succ,
        List.map_append]
      rfl

lemma listsDevices_foldl (devices : List ProvisionedDevice) (si : SubscriberInfo Rest)
    (new : si.accessPoints.list = []) :
    ListsDevices
      (devices.foldl (fun si device => addAccessPoint si device.serialNumber device.deviceType device)
        si).accessPoints.list
      (devices.map ProvisionedDevice.serialNumber) := by
  induction devices using List.reverseRecOn with
  | nil =>
    rw [List.foldl_nil, new]
    exact ⟨rfl, rfl⟩
  | append_singleton devices device ih =>
    rw [List.foldl_concat, List.map_append]
    exact ih.addAccessPoint device

/-- The other members are not changed by the access points. -/
lemma foldl_addAccessPoint_names (devices : List ProvisionedDevice) (si : SubscriberInfo Rest) :
    let built := devices.foldl (fun si device => addAccessPoint si device.serialNumber device.deviceType device) si
    built.firstName = si.firstName ∧ built.lastName = si.lastName := by
  induction devices generalizing si with
  | nil => exact ⟨rfl, rfl⟩
  | cons device devices ih =>
    have one : (addAccessPoint si device.serialNumber device.deviceType device).firstName = si.firstName ∧
        (addAccessPoint si device.serialNumber device.deviceType device).lastName = si.lastName := by
      rw [addAccessPoint]
      split <;> exact ⟨rfl, rfl⟩
    rw [← one.1, ← one.2]
    exact ih _

/-- The record has each word of the name, in order, and an access point for each serial number, in the order
of the first occurrences, distinct and numbered from 1 on. -/
structure KeepsAll (user : SubscribedUser) (devices : List ProvisionedDevice) (si : SubscriberInfo Rest) :
    Prop where
  names : nameWords si.firstName ++ nameWords si.lastName = nameWords (nameSource user)
  distinct : (si.accessPoints.list.map AccessPoint.macAddress).Nodup
  accessPoints : ListsDevices si.accessPoints.list (devices.map ProvisionedDevice.serialNumber)

lemma fillNames_accessPoints (i : Nat) (parts : List String) (si : SubscriberInfo Rest) :
    (fillNames i parts si).accessPoints = si.accessPoints := by
  induction parts generalizing i si with
  | nil => rfl
  | cons part parts ih =>
    rw [fillNames]
    split <;> exact ih _ _

lemma fillName_accessPoints (user : SubscribedUser) (si : SubscriberInfo Rest) :
    (fillName user si).accessPoints = si.accessPoints := by
  rw [fillName]
  split
  · dsimp only
    exact fillNames_accessPoints 0 (nameParts user) si
  · rfl

/-- A new record keeps everything if and only if no part of the name between the first one and the last one
has a word. -/
theorem buildDefaultSubscriberInfo_keepsAll_iff (now : Nat) (user : SubscribedUser)
    (devices : List ProvisionedDevice) :
    KeepsAll user devices (buildDefaultSubscriberInfo now user ({} : SubscriberInfo Rest) devices) ↔
      ∀ part ∈ middleParts user, nameWords part = [] := by
  obtain ⟨si, built, named, points⟩ : ∃ si : SubscriberInfo Rest,
      buildDefaultSubscriberInfo now user ({} : SubscriberInfo Rest) devices =
        devices.foldl (fun si device => addAccessPoint si device.serialNumber device.deviceType device) si ∧
      (nameWords si.firstName ++ nameWords si.lastName = nameWords (nameSource user) ↔
        ∀ part ∈ middleParts user, nameWords part = []) ∧ si.accessPoints.list = [] := by
    rw [buildDefaultSubscriberInfo]
    refine ⟨_, rfl, ?_⟩
    split
    · exact ⟨fillName_words_iff rfl, by rw [fillName_accessPoints]⟩
    · exact ⟨fillName_words_iff rfl, by rw [fillName_accessPoints]⟩
  obtain ⟨firstName, lastName⟩ := foldl_addAccessPoint_names devices si
  have lists := listsDevices_foldl devices si points
  rw [built, ← named, ← firstName, ← lastName]
  refine ⟨?_, ?_⟩
  · exact KeepsAll.names
  · intro names
    refine ⟨names, ?_, lists⟩
    rw [lists.macAddresses]
    exact nodup_eraseDups _

/-- The middle name is lost. -/
theorem buildDefaultSubscriberInfo_loses :
    ¬ KeepsAll { name := "Anna Maria Rossi" } []
      (buildDefaultSubscriberInfo 0 { name := "Anna Maria Rossi" } ({} : SubscriberInfo Unit) []) := by
  intro keeps
  exact absurd keeps.names (by decide)

end UserPortal.Storage
