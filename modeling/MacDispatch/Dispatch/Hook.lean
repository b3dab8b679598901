import MacDispatch.Dispatch.Deed

/-! # Hooks

A hook is what a feature has to say on a channel, and what it does when it is asked. It has a
state of its own, which only its own answers change. Candidates are gone through in order: where
they are asked, up to the first refusal, which is the verdict; where they are told, to the end.
The beginning of a round is told, and so is its refusal. -/

namespace MacDispatch

/-- A hook of a channel, with private state of type `σ`. -/
structure Hook (σ : Type) (c : Channel) where
  state : σ
  act : c.Payload → σ → Acted (c.Answer × σ)

/-- What a hook answers in a state, and the state in which this leaves it. -/
def Hook.respond {σ : Type} {c : Channel} (hook : Hook σ c) (payload : c.Payload) (state : σ) :
    c.Answer × σ :=
  (hook.act payload state).value

structure Candidate (σ : Type) (c : Channel) where
  feature : Feature
  hook : Hook σ c

/-- One candidate asked: what it was passed, and what it answered. -/
structure Call (c : Channel) where
  feature : Feature
  payload : c.Payload
  answer : c.Answer

/-- What comes of going through candidates: the verdict, if they are asked for one, the calls made
in order, and the candidates as they are afterwards. -/
structure Round (σ : Type) (c : Channel) where
  verdict? : Option Bool
  calls : List (Call c)
  candidates : List (Candidate σ c)

namespace Round

private def target : String := "radio_mac_hooks::hooks::dispatcher"

/-- Told before so many candidates are gone through. -/
def opening (message : String) (c : Channel) (candidates : Nat) : Event where
  level := .trace
  target := target
  message := message
  fields := [("channel", .text c.name), ("candidates", .count candidates)]

def shownMeaning (meaning : Option Meaning) : String :=
  (Text.Outline.option (meaning.map fun m => .word (Vocabulary.tag m))).inline

def stopped (c : Channel) (feature : Feature) : Event where
  level := .debug
  target := target
  message := "Candidate returned false, dispatch stopped"
  fields := [("channel", .text c.name), ("feature", .text feature.name),
    ("meaning", .text (shownMeaning c.meaning?))]

end Round

namespace Candidate

variable {σ : Type} {c : Channel}

/-- The answer that the candidate gives in its present state. -/
def answer (candidate : Candidate σ c) (payload : c.Payload) : c.Answer :=
  (candidate.hook.respond payload candidate.hook.state).1

def deeds (payload : c.Payload) (candidate : Candidate σ c) : List Deed :=
  (candidate.hook.act payload candidate.hook.state).deeds

def refuses (payload : c.Payload) (candidate : Candidate σ c) : Bool :=
  (candidate.answer payload).refuses

def call (payload : c.Payload) (candidate : Candidate σ c) : Call c :=
  ⟨candidate.feature, payload, candidate.answer payload⟩

def answered (payload : c.Payload) (candidate : Candidate σ c) : Candidate σ c :=
  { candidate with
    hook := { candidate.hook with
      state := (candidate.hook.respond payload candidate.hook.state).2 } }

/-- Has the candidate answer: the call made, and the candidate as it is then. -/
def consult (payload : c.Payload) (candidate : Candidate σ c) : Acted (Call c × Candidate σ c) := do
  let (answer, state) ← candidate.hook.act payload candidate.hook.state
  return (⟨candidate.feature, payload, answer⟩,
    { candidate with hook := { candidate.hook with state } })

/-- Asks candidates in order up to the first that refuses, of which it is told. -/
def ask (payload : c.Payload) : List (Candidate σ c) → Acted (Round σ c)
  | [] => return ⟨some true, [], []⟩
  | candidate :: rest => do
    let (call, answered) ← candidate.consult payload
    if call.answer.refuses then
      Acted.perform (.tell (Round.stopped c candidate.feature))
      return ⟨some false, [call], answered :: rest⟩
    else
      let round ← ask payload rest
      return ⟨round.verdict?, call :: round.calls, answered :: round.candidates⟩

/-- Tells candidates in order, whatever they answer. -/
def tell (payload : c.Payload) : List (Candidate σ c) → Acted (Round σ c)
  | [] => return ⟨none, [], []⟩
  | candidate :: rest => do
    let (call, answered) ← candidate.consult payload
    let round ← tell payload rest
    return ⟨round.verdict?, call :: round.calls, answered :: round.candidates⟩

def allConsent (payload : c.Payload) (candidates : List (Candidate σ c)) : Acted (Round σ c) := do
  Acted.perform (.tell (Round.opening "Dispatching hook" c candidates.length))
  ask payload candidates

def fanOut (payload : c.Payload) (candidates : List (Candidate σ c)) : Acted (Round σ c) := do
  Acted.perform (.tell (Round.opening "Broadcasting hook" c candidates.length))
  tell payload candidates

/-- Goes through candidates in the way of their channel: on four channels they are asked, on the
others they are told. -/
def round : (c : Channel) → c.Payload → List (Candidate σ c) → Acted (Round σ c)
  | .terminate | .preTransmission | .txFailed | .txStarted => allConsent
  | .transmissionReady | .transmitted | .rxStarted | .rxAckStarted | .prioChanged => fanOut

theorem consult_eq (payload : c.Payload) (candidate : Candidate σ c) :
    candidate.consult payload =
      ⟨(candidate.call payload, candidate.answered payload), candidate.deeds payload⟩ :=
  congrArg (Acted.mk _) (List.append_nil _)

theorem ask_cons_of_refuses {payload : c.Payload} {candidate : Candidate σ c}
    (h : candidate.refuses payload = true) (rest : List (Candidate σ c)) :
    ask payload (candidate :: rest) =
      ⟨⟨some false, [candidate.call payload], candidate.answered payload :: rest⟩,
        candidate.deeds payload ++ [.tell (Round.stopped c candidate.feature)]⟩ := by
  have hcall : (candidate.call payload).answer.refuses = true := h
  rw [ask, consult_eq]
  simp only [bind, hcall, if_true]
  rfl

theorem ask_cons_of_not_refuses {payload : c.Payload} {candidate : Candidate σ c}
    (h : candidate.refuses payload = false) (rest : List (Candidate σ c)) :
    ask payload (candidate :: rest) =
      ⟨⟨(ask payload rest).value.verdict?, candidate.call payload :: (ask payload rest).value.calls,
        candidate.answered payload :: (ask payload rest).value.candidates⟩,
        candidate.deeds payload ++ (ask payload rest).deeds⟩ := by
  have hcall : (candidate.call payload).answer.refuses = false := h
  rw [ask, consult_eq]
  simp only [bind, hcall, Bool.false_eq_true, if_false]
  exact congrArg (Acted.mk _) (congrArg _ (List.append_nil _))

@[simp] theorem tell_eq (payload : c.Payload) (candidates : List (Candidate σ c)) :
    tell payload candidates =
      ⟨⟨none, candidates.map (call payload), candidates.map (answered payload)⟩,
        candidates.flatMap (deeds payload)⟩ := by
  induction candidates with
  | nil => rfl
  | cons candidate rest ih =>
    rw [tell, consult_eq, ih]
    exact congrArg (Acted.mk _) (congrArg _ (List.append_nil _))

end Candidate

end MacDispatch
