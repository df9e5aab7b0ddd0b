import RelayClient.History
import RelayClient.Proofs.StageOrder

/-!
# Runs of a client

What a client answers to the steps of a run is what it answers to each of them in the state that the
steps before it have led to.
-/
namespace RelayClient

def Call.report (c : Call) : Report :=
  ⟨c.run.1, c.run.2.draws.asked, c.run.2.signed, c.run.2.handed, c.run.2.sent, c.run.2.logs⟩

theorem Call.sent_report (c : Call) : c.report.sent =
    ((c.relayer.relay c.input c.options).run { draws := c.draws }).2.sent := rfl

namespace Client

variable (c : Client)

def call (options : Option Options) : Call :=
  ⟨c.relayer, c.input, options, { c.draws with asked := [] }⟩

def after (steps : List Step) : Client := steps.foldl (fun c s => (c.step s).2) c

theorem relay_eq (options : Option Options) : c.relay options =
    ((c.call options).report, { c with draws := (c.call options).run.2.draws }) := rfl

theorem after_concat (steps : List Step) (s : Step) :
    c.after (steps ++ [s]) = ((c.after steps).step s).2 := by
  simp [after]

/-- Each answer of a run is the answer to a step behind those before it. -/
theorem getElem?_run (steps : List Step) (n : Nat) :
    (c.run steps)[n]? = steps[n]?.map fun s => ((c.after (steps.take n)).step s).1 := by
  induction steps generalizing c n with
  | nil => simp [run]
  | cons s rest ih =>
    cases n with
    | zero => simp [run, after]
    | succ n => simpa [run, after] using ih (c.step s).2 n

variable {c}

/-- A step of a run is a relay, made by this call and answered by this report. -/
structure Relays (c : Client) (steps : List Step) (n : Nat) (call : Call) (r : Report) : Prop where
  called : ∃ options, steps[n]? = some (.relay options) ∧
    call = (c.after (steps.take n)).call options
  answered : r = call.report

/-- The reports of a run are those of its relays. -/
theorem exists_relays {steps : List Step} {n : Nat} {r : Report}
    (h : (c.run steps)[n]? = some (some r)) : ∃ call, c.Relays steps n call r := by
  rw [getElem?_run, Option.map_eq_some_iff] at h
  obtain ⟨s, hs, h⟩ := h
  cases s with
  | relay options => exact ⟨_, ⟨options, hs, rfl⟩, (Option.some.inj h).symm⟩
  | signer _ => cases h
  | provider _ => cases h
  | edit _ => cases h

theorem Relays.getElem?_run {steps : List Step} {n : Nat} {call : Call} {r : Report}
    (h : c.Relays steps n call r) : (c.run steps)[n]? = some (some r) := by
  obtain ⟨⟨options, hs, rfl⟩, rfl⟩ := h
  rw [Client.getElem?_run, hs]
  rfl

theorem Relays.unique {steps : List Step} {n : Nat} {call call' : Call} {r r' : Report}
    (h : c.Relays steps n call r) (h' : c.Relays steps n call' r') : call = call' := by
  obtain ⟨options, hs, rfl⟩ := h.called
  obtain ⟨options', hs', rfl⟩ := h'.called
  cases hs.symm.trans hs'
  rfl

theorem Relays.asked_nil {steps : List Step} {n : Nat} {call : Call} {r : Report}
    (h : c.Relays steps n call r) : call.draws.asked = [] := by
  obtain ⟨⟨options, -, rfl⟩, -⟩ := h
  rfl

end Client
end RelayClient
