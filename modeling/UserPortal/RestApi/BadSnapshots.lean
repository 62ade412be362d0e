import UserPortal.RestApi.MutationTraces

/-!
# Bad snapshots

A change of the rules may be answered with a snapshot which is missing or malformed.
`ApplyConfigRawFromMutationResponse` refuses such a reply. `ApplyClientAccessChanges` takes it for an
empty snapshot: it clears the rules of the gateway and goes on.
-/

namespace UserPortal.Sdk.Gw
open Interaction Program

section Batch

variable {conv : Conversions} {config body o : Json.Object} {subscriberId : String}
  {tr : List Portal.Event} {r : Except CallResult Json.Object}

/-- A batch of client entries which was accepted, whose changes were all answered with success, the last
one with `o`. -/
structure AcceptedBatch (conv : Conversions) (body : Json.Object) (subscriberId : String)
    (tr : List Portal.Event) (o : Json.Object) : Prop where
  passes : ∃ clients validated tr1 tr2, body.getArray? "client" = some clients ∧ clients ≠ [] ∧
    Trace (validateClientEntries conv clients).run tr1 (.ok validated) ∧
    Trace (requestClientAccesses subscriberId validated none).run tr2 (.ok (some o)) ∧ tr = tr1 ++ tr2

/-- A bad snapshot never clears the rules: it fails, and the `config-raw` of a configuration is only
removed for an empty or a null one. -/
structure KeepsRules (config o : Json.Object) (r : Except CallResult Json.Object) : Prop where
  fails : RestApi.extractConfigRawSnapshot (some o) true = none → ∃ e, r = .error e
  removes : ∀ updated, r = .ok updated →
    config.has "config-raw" = true → updated.has "config-raw" = false →
    RestApi.extractConfigRawSnapshot (some o) true = some none ∨
      RestApi.extractConfigRawSnapshot (some o) true = some (some [])

/-- After an accepted batch, the reply to its last change updates the configuration. -/
lemma AcceptedBatch.updates (batch : AcceptedBatch conv body subscriberId tr o)
    (h : Trace (applyClientAccessChanges conv config body subscriberId).run tr r) :
    r = .ok (updateConfigRaw config (some o)) := by
  obtain ⟨clients, validated, tr1, tr2, list, nonempty, validates, requests, rfl⟩ := batch.passes
  have goesOn : Trace (applyClientAccessChanges conv config body subscriberId).run (tr1 ++ tr2)
      (.ok (updateConfigRaw config (some o))) := by
    rw [applyClientAccessChanges, list]
    cases clients with
    | nil => exact absurd rfl nonempty
    | cons client clients =>
      apply trace_attempt_bind_ok.mpr
      refine ⟨tr1, tr2, validated, rfl, validates, ?_⟩
      apply trace_attempt_bind_ok.mpr
      exact ⟨tr2, [], some o, (List.append_nil _).symm, requests, trace_attempt_pure.mpr ⟨rfl, rfl⟩⟩
  exact h.unique goesOn

/-- A snapshot with a command is kept. -/
lemma updateConfigRaw_has {cmd : Json} {cmds : List Json}
    (h : RestApi.extractConfigRawSnapshot (some o) true = some (some (cmd :: cmds))) :
    (updateConfigRaw config (some o)).has "config-raw" = true := by
  have runs : RunsSnapshot (updateConfigRaw config (some o)) (cmd :: cmds) :=
    updateConfigRaw_runsSnapshot h
  rcases runs with runs | ⟨empty, _⟩
  · rw [Json.Object.has, runs]
    rfl
  · cases empty

/-- A batch keeps the rules as it should exactly when the reply to its last change carries a snapshot,
null or well formed. -/
theorem applyClientAccessChanges_keepsRules_iff (batch : AcceptedBatch conv body subscriberId tr o)
    (h : Trace (applyClientAccessChanges conv config body subscriberId).run tr r) :
    KeepsRules config o r ↔ RestApi.extractConfigRawSnapshot (some o) true ≠ none := by
  have updates := batch.updates h
  refine ⟨?_, ?_⟩
  · intro keeps bad
    obtain ⟨e, eq⟩ := keeps.fails bad
    rw [updates] at eq
    cases eq
  · intro good
    refine ⟨fun bad => absurd bad good, ?_⟩
    intro updated eq _ removed
    rw [updates] at eq
    cases eq
    cases ext : RestApi.extractConfigRawSnapshot (some o) true with
    | none => exact absurd ext good
    | some configRaw =>
      cases configRaw with
      | none => exact .inl rfl
      | some cmds =>
        cases cmds with
        | nil => exact .inr rfl
        | cons cmd cmds =>
          -- the commands of the snapshot are in the configuration
          rw [updateConfigRaw_has ext] at removed
          cases removed

end Batch

/-! ## A block which is answered without a snapshot -/

namespace EmptyReply

/-- A request to block a client. -/
def body : Json.Object :=
  [("client", .arr [.obj [("access", .str "deny"), ("mac", .str "aabbccddeeff")]])]

/-- The configuration of a gateway which blocks another one. -/
def config : Json.Object :=
  [("config-raw", .arr [.arr [.str "set", .str "firewall.pc_client_access_1", .str "rule"]])]

/-- The block, answered with a reply. -/
def blocked (reply : Json.Object) : Portal.Event :=
  ⟨.call (ParentalControl.createClientAccessCall "subscriber" [("client_mac", .str "aa:bb:cc:dd:ee:ff")]),
    some ⟨HTTPStatus.ok, .json (.obj reply)⟩⟩

/-- What pass 1 makes of the entry. -/
def entry : ValidatedClientEntry where
  mac := "aabbccddeeff"
  formattedMac := "aa:bb:cc:dd:ee:ff"
  access := "deny"
  durationMinutes := 0
  hasDuration := false
  duration_inv := nofun

lemma accepted (reply : Json.Object) :
    AcceptedBatch Conversions.strict body "subscriber" [blocked reply] reply where
  passes := by
    refine ⟨_, [entry], [], [blocked reply], rfl, nofun, ?_, ?_, rfl⟩
    · apply trace_iff_replay.mpr
      rfl
    · apply trace_iff_replay.mpr
      rfl

/-- A reply with an empty snapshot clears the rules. -/
theorem keepsRules_emptySnapshot :
    KeepsRules config [("config-raw", .arr [])]
      (.ok (updateConfigRaw config (some [("config-raw", .arr [])]))) :=
  (applyClientAccessChanges_keepsRules_iff (accepted _)
    (trace_iff_replay.mpr rfl : Trace (applyClientAccessChanges Conversions.strict config body
      "subscriber").run [blocked [("config-raw", .arr [])]] _)).mpr nofun

/-- A reply with an empty object clears them as well. -/
theorem emptyReply_clearsRules :
    ¬ ∀ (conv : Conversions) (config body : Json.Object) (subscriberId : String)
      (tr : List Portal.Event) (o : Json.Object) (r : Except CallResult Json.Object),
      AcceptedBatch conv body subscriberId tr o →
      Trace (applyClientAccessChanges conv config body subscriberId).run tr r → KeepsRules config o r := by
  intro keeps
  have cleared : Trace (applyClientAccessChanges Conversions.strict config body "subscriber").run
      [blocked []] (.ok []) := by
    apply trace_iff_replay.mpr
    rfl
  obtain ⟨e, eq⟩ := (keeps _ _ _ _ _ _ _ (accepted []) cleared).fails rfl
  cases eq

end EmptyReply

end UserPortal.Sdk.Gw

namespace UserPortal.RestApi.ParentalControl
open Interaction Program Sdk

/-- The other handlers answer a bad snapshot with an error, and send nothing to the gateway. -/
lemma applyConfigRawFromMutationResponse_refuses {conv : Conversions}
    {method bearerToken subscriberId operatorId : String} {response : Option Json.Object}
    {tr : List Portal.Event} {r : Bool × List HandlerAnswer}
    (bad : extractConfigRawSnapshot response true = none)
    (h : Trace (applyConfigRawFromMutationResponse conv method bearerToken subscriberId operatorId
      response true) tr r) :
    tr = [] ∧ r = (false, [HandlerAnswer.internalError method Errors.internalError]) := by
  rw [applyConfigRawFromMutationResponse, bad] at h
  exact trace_pure.mp h

end UserPortal.RestApi.ParentalControl
