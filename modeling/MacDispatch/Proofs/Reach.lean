import MacDispatch.Dispatch.Registry

/-! # How far a dispatch gets

Candidates are asked up to and including the first that refuses in its present state. Those asked
have answered once; those after them are as they were. Candidates that are only told cannot
refuse, so both ways of going through them are one where it matters. -/

namespace MacDispatch

open List

variable {σ : Type}

/-! ## Policies -/

/-- An answer that says nothing is no refusal. -/
theorem Policy.Answer.refuses_of_broadcast {policy : Policy} (h : policy = .broadcast)
    (answer : policy.Answer) : answer.refuses = false := by
  subst h
  rfl

namespace Candidate

variable {c : Channel}

/-- A candidate apart from its state: whose it is, and how it answers. -/
def role (candidate : Candidate σ c) : Feature × (c.Payload → σ → Acted (c.Answer × σ)) :=
  (candidate.feature, candidate.hook.act)

theorem respond_eq_of_role_eq {candidate other : Candidate σ c}
    (h : candidate.role = other.role) : candidate.hook.respond = other.hook.respond := by
  have hact : candidate.hook.act = other.hook.act := congrArg Prod.snd h
  funext payload state
  rw [Hook.respond, hact, Hook.respond]

theorem refuses_of_broadcast (h : c.policy = .broadcast) (payload : c.Payload)
    (candidate : Candidate σ c) : candidate.refuses payload = false :=
  Policy.Answer.refuses_of_broadcast h _

/-! ## The number of candidates asked -/

/-- How many candidates are asked: up to the first that refuses, or all of them. -/
def reach (payload : c.Payload) (candidates : List (Candidate σ c)) : Nat :=
  match candidates.findIdx? (·.refuses payload) with
  | some i => i + 1
  | none => candidates.length

theorem reach_cons_of_refuses {payload : c.Payload} {candidate : Candidate σ c}
    (h : candidate.refuses payload = true) (rest : List (Candidate σ c)) :
    reach payload (candidate :: rest) = 1 := by
  simp [reach, findIdx?_cons, h]

theorem reach_cons_of_not_refuses {payload : c.Payload} {candidate : Candidate σ c}
    (h : candidate.refuses payload = false) (rest : List (Candidate σ c)) :
    reach payload (candidate :: rest) = reach payload rest + 1 := by
  simp only [reach, findIdx?_cons, h, Bool.false_eq_true, if_false]
  cases rest.findIdx? (·.refuses payload) <;> rfl

/-- Everyone is asked when nobody refuses. -/
theorem reach_of_forall_not_refuses {payload : c.Payload} {candidates : List (Candidate σ c)}
    (h : ∀ candidate ∈ candidates, candidate.refuses payload = false) :
    reach payload candidates = candidates.length := by
  rw [reach, findIdx?_eq_none_iff.mpr h]

/-- Whoever is asked says yes, except for the last one if there is a refusal. -/
theorem take_reach_cases (payload : c.Payload) (candidates : List (Candidate σ c)) :
    (candidates.take (reach payload candidates) = candidates ∧
        ∀ candidate ∈ candidates, candidate.refuses payload = false) ∨
      ∃ front last, candidates.take (reach payload candidates) = front ++ [last] ∧
        (∀ candidate ∈ front, candidate.refuses payload = false) ∧
          last.refuses payload = true := by
  induction candidates with
  | nil => simp
  | cons candidate rest ih =>
    cases h : candidate.refuses payload
    · rw [reach_cons_of_not_refuses h, take_succ_cons]
      rcases ih with ⟨htake, hyes⟩ | ⟨front, last, htake, hyes, hno⟩
      · exact .inl ⟨by rw [htake], forall_mem_cons.mpr ⟨h, hyes⟩⟩
      · exact .inr ⟨candidate :: front, last, by rw [htake, cons_append],
          forall_mem_cons.mpr ⟨h, hyes⟩, hno⟩
    · rw [reach_cons_of_refuses h]
      exact .inr ⟨[], candidate, rfl, by simp, h⟩

/-- The first that refuses is asked last. -/
theorem take_reach_of_refuses {payload : c.Payload} {front : List (Candidate σ c)}
    (hyes : ∀ candidate ∈ front, candidate.refuses payload = false) {last : Candidate σ c}
    (hno : last.refuses payload = true) (back : List (Candidate σ c)) :
    (front ++ last :: back).take (reach payload (front ++ last :: back)) = front ++ [last] := by
  induction front with
  | nil => simp [reach_cons_of_refuses hno]
  | cons candidate front ih =>
    rw [forall_mem_cons] at hyes
    rw [cons_append, reach_cons_of_not_refuses hyes.1, take_succ_cons, ih hyes.2, cons_append]

/-! ## Going through candidates -/

/-- What is told of the first that refuses, if somebody does. -/
def refusal (payload : c.Payload) (candidates : List (Candidate σ c)) : List Deed :=
  (candidates.find? (·.refuses payload)).toList.map fun last =>
    .tell (Round.stopped c last.feature)

theorem refusal_cons_of_refuses {payload : c.Payload} {candidate : Candidate σ c}
    (h : candidate.refuses payload = true) (rest : List (Candidate σ c)) :
    refusal payload (candidate :: rest) = [.tell (Round.stopped c candidate.feature)] := by
  rw [refusal, find?_cons_of_pos h]
  rfl

theorem refusal_cons_of_not_refuses {payload : c.Payload} {candidate : Candidate σ c}
    (h : candidate.refuses payload = false) (rest : List (Candidate σ c)) :
    refusal payload (candidate :: rest) = refusal payload rest := by
  rw [refusal, find?_cons_of_neg (by simp [h]), refusal]

theorem refusal_of_forall_not_refuses {payload : c.Payload} {candidates : List (Candidate σ c)}
    (h : ∀ candidate ∈ candidates, candidate.refuses payload = false) :
    refusal payload candidates = [] := by
  rw [refusal, find?_eq_none.mpr fun candidate hmem => by simp [h candidate hmem]]
  rfl

/-- Asking calls the candidates up to the first refusal, once each and in order, changes their
states and no others, and grants what nobody refuses. What they do is done in the same order, and
the refusal is told last. -/
theorem ask_eq (payload : c.Payload) (candidates : List (Candidate σ c)) :
    ask payload candidates =
      ⟨⟨some (!candidates.any (·.refuses payload)),
        (candidates.take (reach payload candidates)).map (·.call payload),
        (candidates.take (reach payload candidates)).map (·.answered payload) ++
          candidates.drop (reach payload candidates)⟩,
        (candidates.take (reach payload candidates)).flatMap (deeds payload) ++
          refusal payload candidates⟩ := by
  induction candidates with
  | nil => rfl
  | cons candidate rest ih =>
    cases h : candidate.refuses payload
    · rw [ask_cons_of_not_refuses h, ih, reach_cons_of_not_refuses h,
        refusal_cons_of_not_refuses h]
      simp [h]
    · rw [ask_cons_of_refuses h, reach_cons_of_refuses h, refusal_cons_of_refuses h]
      simp [h]

theorem round_of_consent (h : c.policy = .consent) (payload : c.Payload)
    (candidates : List (Candidate σ c)) :
    round c payload candidates = allConsent payload candidates := by
  cases c with
  | terminate | preTransmission | txFailed | txStarted => rfl
  | transmissionReady | transmitted | rxStarted | rxAckStarted | prioChanged => cases h

theorem round_of_broadcast (h : c.policy = .broadcast) (payload : c.Payload)
    (candidates : List (Candidate σ c)) :
    round c payload candidates = fanOut payload candidates := by
  cases c with
  | terminate | preTransmission | txFailed | txStarted => cases h
  | transmissionReady | transmitted | rxStarted | rxAckStarted | prioChanged => rfl

theorem value_round_of_consent (h : c.policy = .consent) (payload : c.Payload)
    (candidates : List (Candidate σ c)) :
    (round c payload candidates).value = (ask payload candidates).value := by
  rw [round_of_consent h]
  rfl

theorem value_round_of_broadcast (h : c.policy = .broadcast) (payload : c.Payload)
    (candidates : List (Candidate σ c)) :
    (round c payload candidates).value = (tell payload candidates).value := by
  rw [round_of_broadcast h]
  rfl

theorem reach_of_broadcast (h : c.policy = .broadcast) (payload : c.Payload)
    (candidates : List (Candidate σ c)) : reach payload candidates = candidates.length :=
  reach_of_forall_not_refuses fun candidate _ => candidate.refuses_of_broadcast h payload

/-- Either way, those who are reached are called in order and nobody else changes. -/
theorem value_round_eq (payload : c.Payload) (candidates : List (Candidate σ c)) :
    (round c payload candidates).value =
      ⟨(round c payload candidates).value.verdict?,
        (candidates.take (reach payload candidates)).map (·.call payload),
        (candidates.take (reach payload candidates)).map (·.answered payload) ++
          candidates.drop (reach payload candidates)⟩ := by
  cases h : c.policy with
  | consent => rw [value_round_of_consent h, ask_eq]
  | broadcast => rw [value_round_of_broadcast h, tell_eq, reach_of_broadcast h, take_length,
      drop_length, append_nil]

/-- The beginning of a round, as it is told on the channel. -/
def opening (candidates : List (Candidate σ c)) : Deed :=
  .tell (Round.opening
    (match c.policy with
      | .consent => "Dispatching hook"
      | .broadcast => "Broadcasting hook") c candidates.length)

/-- A round is told when it begins; then those who are reached do what they do, in order, and a
refusal is told at the end. -/
theorem deeds_round (payload : c.Payload) (candidates : List (Candidate σ c)) :
    (round c payload candidates).deeds =
      opening candidates ::
        ((candidates.take (reach payload candidates)).flatMap (deeds payload) ++
          refusal payload candidates) := by
  cases h : c.policy with
  | consent =>
    rw [round_of_consent h, opening, h, allConsent, Acted.deeds_bind, ask_eq]
    rfl
  | broadcast =>
    have hnobody : refusal payload candidates = [] :=
      refusal_of_forall_not_refuses fun candidate _ => candidate.refuses_of_broadcast h payload
    rw [round_of_broadcast h, opening, h, fanOut, Acted.deeds_bind, tell_eq, hnobody,
      reach_of_broadcast h, take_length, append_nil]
    rfl

end Candidate

/-! ## Dispatches -/

namespace Registry

variable (registry : Registry σ) (signal : Signal)

def asked : List (Candidate σ signal.channel) :=
  (registry.table signal.channel).take
    (Candidate.reach signal.payload (registry.table signal.channel))

def spared : List (Candidate σ signal.channel) :=
  (registry.table signal.channel).drop
    (Candidate.reach signal.payload (registry.table signal.channel))

@[simp] theorem asked_append_spared :
    registry.asked signal ++ registry.spared signal = registry.table signal.channel :=
  take_append_drop _ _

theorem fire_eq : registry.fire signal =
    (⟨signal.channel, signal.payload, (Candidate.round signal.channel signal.payload
        (registry.table signal.channel)).value.verdict?, (Candidate.round signal.channel
          signal.payload (registry.table signal.channel)).value.calls⟩,
      registry.set signal.channel (Candidate.round signal.channel signal.payload
        (registry.table signal.channel)).value.candidates) := rfl

@[simp] theorem features_fire : (registry.fire signal).2.features = registry.features := rfl

theorem calls_fire : (registry.fire signal).1.calls =
    (registry.asked signal).map (·.call signal.payload) := by
  simp only [fire_eq, asked]
  rw [Candidate.value_round_eq]

theorem table_fire_self : (registry.fire signal).2.table signal.channel =
    (registry.asked signal).map (·.answered signal.payload) ++ registry.spared signal := by
  simp only [fire_eq, table_set_self, asked, spared]
  rw [Candidate.value_round_eq]

/-- What is done in a dispatch: its beginning is told, those who are reached do what they do, and
a refusal is told at the end. -/
theorem deeds_dispatch : (registry.dispatch signal).deeds =
    Candidate.opening (registry.table signal.channel) ::
      ((registry.asked signal).flatMap (Candidate.deeds signal.payload) ++
        Candidate.refusal signal.payload (registry.table signal.channel)) := by
  rw [dispatch, Acted.deeds_bind, Candidate.deeds_round]
  exact append_nil _

theorem table_fire_of_ne {c : Channel} (h : signal.channel ≠ c) :
    (registry.fire signal).2.table c = registry.table c :=
  table_set_of_ne _ h _

/-- Asking for consent gives a verdict: no exactly if somebody refuses. -/
theorem verdict?_fire_of_consent (h : signal.channel.policy = .consent) :
    (registry.fire signal).1.verdict? =
      some (!(registry.table signal.channel).any (·.refuses signal.payload)) := by
  simp only [fire_eq, Candidate.value_round_of_consent h, Candidate.ask_eq]

theorem verdict?_fire_eq_some_admitted (h : signal.channel.policy = .consent) :
    (registry.fire signal).1.verdict? = some (registry.fire signal).1.admitted := by
  rw [Firing.admitted, verdict?_fire_of_consent _ _ h, Option.getD_some]

/-- A broadcast has no verdict, whatever the hooks do. -/
theorem verdict?_fire_of_broadcast (h : signal.channel.policy = .broadcast) :
    (registry.fire signal).1.verdict? = none := by
  simp only [fire_eq, Candidate.value_round_of_broadcast h, Candidate.tell_eq]

/-- Where nobody refuses, everyone is reached. -/
theorem asked_of_forall_not_refuses (h : ∀ candidate ∈ registry.table signal.channel,
    candidate.refuses signal.payload = false) :
    registry.asked signal = registry.table signal.channel := by
  rw [asked, Candidate.reach_of_forall_not_refuses h, take_length]

theorem asked_of_broadcast (h : signal.channel.policy = .broadcast) :
    registry.asked signal = registry.table signal.channel :=
  registry.asked_of_forall_not_refuses signal fun candidate _ =>
    candidate.refuses_of_broadcast h _

theorem asked_of_refuses {front back : List (Candidate σ signal.channel)}
    {last : Candidate σ signal.channel}
    (htable : registry.table signal.channel = front ++ last :: back)
    (hyes : ∀ candidate ∈ front, candidate.refuses signal.payload = false)
    (hno : last.refuses signal.payload = true) : registry.asked signal = front ++ [last] := by
  rw [asked, htable, Candidate.take_reach_of_refuses hyes hno]

/-- Everyone on the channel of a broadcast answers it. -/
theorem table_fire_of_broadcast (h : signal.channel.policy = .broadcast) :
    (registry.fire signal).2.table signal.channel =
      (registry.table signal.channel).map (·.answered signal.payload) := by
  simp only [fire_eq, table_set_self, Candidate.value_round_of_broadcast h, Candidate.tell_eq]

/-- A dispatch changes nobody's feature, nobody's way to answer, and nobody's place. -/
theorem map_role_table_fire (c : Channel) :
    ((registry.fire signal).2.table c).map Candidate.role =
      (registry.table c).map Candidate.role := by
  by_cases h : signal.channel = c
  · subst h
    rw [table_fire_self, ← asked_append_spared registry signal, map_append, map_append, map_map]
    rfl
  · rw [table_fire_of_ne _ _ h]

theorem map_feature_table_fire (c : Channel) :
    ((registry.fire signal).2.table c).map Candidate.feature =
      (registry.table c).map Candidate.feature := by
  have hrole := congrArg (List.map Prod.fst) (registry.map_role_table_fire signal c)
  rwa [map_map, map_map] at hrole

/-! ## Features called -/

/-- The features called are those of the candidates reached. -/
theorem features_firing : (registry.fire signal).1.features =
    (registry.asked signal).map Candidate.feature := by
  calc
    (registry.fire signal).1.features =
        ((registry.asked signal).map (·.call signal.payload)).map Call.feature :=
      congrArg (List.map Call.feature) (registry.calls_fire signal)
    _ = (registry.asked signal).map Candidate.feature := by
      rw [map_map]
      rfl

theorem features_firing_of_broadcast {registry : Registry σ} {signal : Signal}
    (h : signal.channel.policy = .broadcast) :
    (registry.fire signal).1.features = registry.candidates signal.channel := by
  rw [features_firing, asked_of_broadcast _ _ h, candidates]

end Registry

end MacDispatch
