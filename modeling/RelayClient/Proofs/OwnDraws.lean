import RelayClient.Proofs.CallCourse
import RelayClient.Proofs.ServicerCheck

/-!
# The draws of a relay are its own

A run draws all its numbers from one stream. Each relay takes a stretch of it that begins where the
relay before it ended, and how long the stretch is depends on the preconditions and on the node of the
input only. What the relay comes to is a function of this stretch: nothing is kept from one relay to
the next, and neither the provider nor the options have a say in what is drawn or signed.
-/
namespace RelayClient

namespace Draws

/-- The next numbers of two streams are the same. -/
def AgreeOn (d d' : Draws) (n : Nat) : Prop :=
  ∀ k < n, d.source (d.used + k) = d'.source (d'.used + k)

theorem AgreeOn.answer {d d' : Draws} {n ahead : Nat} (h : d.AgreeOn d' n) (ha : ahead < n)
    (bound : Int) : d.answer ahead bound = d'.answer ahead bound := by
  rw [Draws.answer, Draws.answer, h ahead ha]

end Draws

namespace Input

variable {i : Input} {s : Session} {node : Node} {d d' : Draws}

theorem bounds_of_given (hs : i.session = some s) (hn : i.node = some node) :
    i.bounds = [entropyBound] := by
  simp [bounds, nodeBounds, hs, hn]

theorem bounds_of_random (hs : i.session = some s) (hn : i.node = none) :
    i.bounds = [(s.nodes.length : Int), entropyBound] := by
  simp [bounds, nodeBounds, hs, hn]

theorem length_bounds (i : Input) : i.bounds.length = i.nodeBounds.length + 1 :=
  List.length_append

theorem entropyAt_congr (h : d.AgreeOn d' i.bounds.length) : i.entropyAt d = i.entropyAt d' :=
  h.answer (by rw [length_bounds]; exact Nat.lt_succ_self _) _

theorem nodeAt_congr (h : d.AgreeOn d' i.nodeBounds.length) : i.nodeAt d = i.nodeAt d' := by
  cases hs : i.session with
  | none => simp [nodeAt, hs]
  | some s =>
    cases hn : i.node with
    | some node => simp [nodeAt, hs, hn]
    | none =>
      have hfirst : 0 < i.nodeBounds.length := by simp [nodeBounds, hs, hn]
      simp [nodeAt, hs, hn, h.answer hfirst]

theorem of_nodeAt (h : i.nodeAt d = .ok node) : i.node = some node ∨
    i.node = none ∧ ∃ s, i.session = some s ∧
      s.nodes[d.source d.used % s.nodes.length]? = some node := by
  unfold nodeAt at h
  split at h
  · cases h
  · rename_i s hs hn
    have hindex : (d.answer 0 s.nodes.length).toNat = d.source d.used % s.nodes.length := by
      rw [Draws.answer, Nat.add_zero, ← Int.natCast_emod, Int.toNat_natCast]
    rw [hindex] at h
    split at h
    · rename_i hget
      cases h
      exact .inr ⟨hn, s, hs, hget⟩
    · cases h
  · rename_i hn
    split at h
    · cases h
      exact .inl hn
    · cases h

theorem hasNode_of_nodeAt (hs : i.session = some s) (hn : i.node = some node) {n : Node}
    (h : i.nodeAt d = .ok n) : s.hasNode node = true := by
  simp only [nodeAt, hs, hn] at h
  split at h
  · assumption
  · cases h

end Input

structure Report.IsAbout (r : Report) (i : Input) (node : Node) (entropy : Int) : Prop where
  logged : r.logs.head? = some (i.relayingRecord node)
  signed : ∀ d ∈ r.signed, ∃ p, i.unsignedProof (some node) (.int entropy) = .ok p ∧
    p.entropy = .int entropy ∧ p.digest = .ok d
  handed : ∀ h ∈ r.handed, h.url = node.serviceUrl ∧
    h.input.proof.servicerPublicKey = node.publicKey ∧ h.input.proof.entropy = .int entropy

/-- Two reports that agree in everything which is settled before a provider is called. -/
structure Report.AgreesBefore (r r' : Report) : Prop where
  asked : r'.asked = r.asked
  signed : r'.signed = r.signed
  handed : r'.handed.map (fun h => (h.url, h.input)) = r.handed.map fun h => (h.url, h.input)
  unhanded : r.handed = [] → r' = r
  output : ∀ o o', r.outcome = .ok o → r'.outcome = .ok o' → o'.proof = o.proof ∧ o'.node = o.node

theorem Report.AgreesBefore.refl (r : Report) : r.AgreesBefore r where
  asked := rfl
  signed := rfl
  handed := rfl
  unhanded _ := rfl
  output o o' ho ho' := by
    cases ho.symm.trans ho'
    exact ⟨rfl, rfl⟩

namespace Call

/-- The last number that a call draws, below the bound of entropies. -/
def lastDraw (c : Call) (r : Report) : Int :=
  (c.draws.source (c.draws.used + (r.asked.length - 1)) : Int) % entropyBound

/-- The caller's node, or else the one at the first number drawn, below the number of nodes. -/
def Picks (c : Call) (node : Node) : Prop :=
  c.input.node = some node ∨ c.input.node = none ∧ ∃ s, c.input.session = some s ∧
    s.nodes[c.draws.source c.draws.used % s.nodes.length]? = some node

/-- What a call draws and what becomes of it. -/
structure DrawsOwn (c : Call) (r : Report) : Prop where
  refused : c.relayer.failedPrecondition? c.input ≠ none → r.asked = []
  foreign : ∀ s n, c.relayer.failedPrecondition? c.input = none → c.input.session = some s →
    c.input.node = some n → s.hasNode n = false → r.asked = []
  given : ∀ s n, c.relayer.failedPrecondition? c.input = none → c.input.session = some s →
    c.input.node = some n → s.hasNode n = true → r.asked = [entropyBound]
  random : ∀ s, c.relayer.failedPrecondition? c.input = none → c.input.session = some s →
    c.input.node = none → r.asked = [(s.nodes.length : Int), entropyBound]
  idle : r.asked = [] → r.signed = [] ∧ r.handed = [] ∧ r.logs = []
  /-- The first draw settles the node and the last one the entropy. -/
  begins : r.asked ≠ [] → ∃ node, c.Picks node ∧ r.IsAbout c.input node (c.lastDraw r)
  range : 0 ≤ c.lastDraw r ∧ c.lastDraw r < entropyBound

variable {c c' : Call} {r : Report} {node : Node}

theorem lastDraw_mem_range (c : Call) (r : Report) :
    0 ≤ c.lastDraw r ∧ c.lastDraw r < entropyBound :=
  ⟨Int.emod_nonneg _ (by decide), Int.emod_lt_of_pos _ entropyBound_pos⟩

theorem Begins.drawsOwn (h : c.Begins node) (hasked : r.asked = c.input.bounds)
    (habout : r.IsAbout c.input node (c.input.entropyAt c.draws)) : c.DrawsOwn r where
  refused hfailed := absurd h.passes hfailed
  foreign s n _ hs hn hunknown := by
    rw [Input.hasNode_of_nodeAt hs hn h.leads] at hunknown
    cases hunknown
  given s n _ hs hn _ := hasked.trans (Input.bounds_of_given hs hn)
  random s _ hs hn := hasked.trans (Input.bounds_of_random hs hn)
  idle hidle := by
    have hlength := c.input.length_bounds
    rw [← hasked, hidle] at hlength
    cases hlength
  begins _ := by
    have hlast : c.lastDraw r = c.input.entropyAt c.draws := by
      rw [lastDraw, hasked, c.input.length_bounds, Nat.add_sub_cancel]
      rfl
    rw [hlast]
    exact ⟨node, Input.of_nodeAt h.leads, habout⟩
  range := c.lastDraw_mem_range r

theorem Course.drawsOwn (h : c.Course r) : c.DrawsOwn r := by
  cases h with
  | refused p fails =>
    have hnot {α : Prop} (h : c.relayer.failedPrecondition? c.input = none) : α := by
      cases fails.symm.trans h
    exact {
      refused := fun _ => rfl
      foreign := fun _ _ h => hnot h
      given := fun _ _ h => hnot h
      random := fun _ h => hnot h
      idle := fun _ => ⟨rfl, rfl, rfl⟩
      begins := fun h => absurd rfl h
      range := c.lastDraw_mem_range _ }
  | foreign session node passes hasSession hasNode unknown =>
    exact {
      refused := fun _ => rfl
      foreign := fun _ _ _ _ _ _ => rfl
      given := by
        intro s n _ hs hn hknown
        cases hs.symm.trans hasSession
        cases hn.symm.trans hasNode
        cases hknown.symm.trans unknown
      random := by
        intro s _ _ hn
        cases hn.symm.trans hasNode
      idle := fun _ => ⟨rfl, rfl, rfl⟩
      begins := fun h => absurd rfl h
      range := c.lastDraw_mem_range _ }
  | undigested node f begins hashing =>
    exact begins.drawsOwn rfl { logged := rfl, signed := nofun, handed := nofun }
  | unsigned signer node unsigned digest f begins hasSigner drafted signs =>
    exact begins.drawsOwn rfl {
      logged := rfl
      signed := by simpa using ⟨unsigned, drafted.builds, drafted.about.2, drafted.digests⟩
      handed := nofun }
  | delivered signer provider node unsigned digest signature handover begins hasSigner hasProvider
      drafted signs hands =>
    subst hands
    exact begins.drawsOwn rfl {
      logged := rfl
      signed := by simpa using ⟨unsigned, drafted.builds, drafted.about.2, drafted.digests⟩
      handed := by simpa using ⟨rfl, drafted.about⟩ }

/-- Two calls with the same signer and input, both with a provider or both without, whose streams agree
on the draws of the first. -/
structure Alike (c c' : Call) : Prop where
  fresh : c.draws.asked = []
  fresh' : c'.draws.asked = []
  signer : c'.relayer.signer = c.relayer.signer
  provider : c'.relayer.provider.isNone = c.relayer.provider.isNone
  input : c'.input = c.input
  draws : c.draws.AgreeOn c'.draws c.report.asked.length

/-- Such calls have the same report, or they are served by the same node with the same entropy. -/
theorem Alike.cases (h : c.Alike c') : c'.report = c.report ∨
    ∃ signer provider provider' node entropy, c.relayer.provider = some provider ∧
      c'.relayer.provider = some provider' ∧
      c.report = c.input.report signer provider c.options node entropy ∧
      c'.report = c.input.report signer provider' c'.options node entropy := by
  obtain ⟨relayer', input', options', draws'⟩ := c'
  obtain ⟨hfresh, hfresh', hsigner, hprovider, rfl, hagree⟩ := h
  dsimp only at hfresh' hsigner hprovider hagree ⊢
  have hsame : relayer'.failedPrecondition? c.input = c.relayer.failedPrecondition? c.input := by
    simp only [Relayer.failedPrecondition?, hsigner, hprovider]
  cases hpassed : c.relayer.failedPrecondition? c.input with
  | some p =>
    rw [report_of_failed hfresh hpassed, report_of_failed hfresh' (hsame.trans hpassed)]
    exact .inl rfl
  | none =>
  obtain ⟨P⟩ := Relayer.exists_passed hpassed
  obtain ⟨P'⟩ := Relayer.exists_passed (hsame.trans hpassed)
  cases hnode : c.input.nodeAt c.draws with
  | error f =>
    obtain ⟨_, -, -, h⟩ | ⟨node, hgiven, hunknown, -⟩ | ⟨_, -, -, h⟩ :=
      Input.nodeAt_cases P.hasSession P.hasNodes c.draws
    · cases h.symm.trans hnode
    · have hsession : P'.session = P.session :=
        Option.some.inj (P'.hasSession.symm.trans P.hasSession)
      have hreport := report_of_foreign hfresh P hgiven hunknown
      rw [← hsession] at hunknown
      have hreport' : Call.report ⟨relayer', c.input, options', draws'⟩ = _ :=
        report_of_foreign hfresh' P' hgiven hunknown
      exact .inl (hreport'.trans hreport.symm)
    · cases h.symm.trans hnode
  | ok node =>
    rw [report_of_node hfresh P hnode] at hagree
    have hnodeAt : c.input.nodeAt draws' = .ok node := by
      rw [← hnode]
      refine (Input.nodeAt_congr fun k hk => hagree k ?_).symm
      exact Nat.lt_of_lt_of_eq (Nat.lt_succ_of_lt hk) c.input.length_bounds.symm
    have hentropyAt : c.input.entropyAt draws' = c.input.entropyAt c.draws :=
      (Input.entropyAt_congr hagree).symm
    have hcalled : P'.signer = P.signer :=
      Option.some.inj (P'.hasSigner.symm.trans (hsigner.trans P.hasSigner))
    have hreport' : Call.report ⟨relayer', c.input, options', draws'⟩ = _ :=
      report_of_node hfresh' P' hnodeAt
    dsimp only at hreport'
    rw [hcalled, hentropyAt] at hreport'
    exact .inr ⟨_, _, _, _, _, P.hasProvider, P'.hasProvider, report_of_node hfresh P hnode, hreport'⟩

theorem Alike.report_eq (h : c.Alike c') (hprovider : c'.relayer.provider = c.relayer.provider)
    (hoptions : c'.options = c.options) : c'.report = c.report := by
  obtain heq | ⟨signer, provider, provider', node, entropy, hp, hp', hreport, hreport'⟩ := h.cases
  · exact heq
  · obtain rfl : provider' = provider := Option.some.inj (hp'.symm.trans (hprovider.trans hp))
    rw [hreport, hreport', hoptions]

theorem Alike.agreesBefore (h : c.Alike c') : c.report.AgreesBefore c'.report := by
  obtain heq | ⟨signer, provider, provider', node, entropy, -, -, hreport, hreport'⟩ := h.cases
  · rw [heq]
    exact .refl _
  rw [hreport, hreport']
  simp only [Input.report, Input.serve]
  cases hdigested : c.input.digested (some node) (.int entropy) with
  | error f => exact .refl _
  | ok a =>
  obtain ⟨unsigned, digest⟩ := a
  cases hsign : signer.sign digest with
  | error f =>
    simp only [hsign]
    exact .refl _
  | ok signature =>
    simp only [hsign]
    refine ⟨rfl, rfl, rfl, fun hnone => ?_, fun o o' ho ho' => ?_⟩
    · cases hnone
    · obtain ⟨_, -, rfl⟩ := map_eq_ok_iff.mp ho
      obtain ⟨_, -, rfl⟩ := map_eq_ok_iff.mp ho'
      exact ⟨rfl, rfl⟩

end Call

namespace Client

variable {c : Client}

/-- The bounds that these answers have asked for, one relay after the other. -/
def asked (answers : List (Option Report)) : List Int :=
  answers.flatMap fun answer => (answer.map (·.asked)).getD []

theorem draws_step (c : Client) (s : Step) : (c.step s).2.draws.source = c.draws.source ∧
    (c.step s).2.draws.used = c.draws.used + (asked [(c.step s).1]).length := by
  cases s with
  | signer s => exact ⟨rfl, rfl⟩
  | provider p => exact ⟨rfl, rfl⟩
  | edit change => exact ⟨rfl, rfl⟩
  | relay options =>
    have hdraws := (c.call options).draws_run rfl
    simp only [step, relay_eq, hdraws, asked]
    simp [Draws.spend, call]

theorem draws_after (c : Client) (steps : List Step) :
    (c.after steps).draws.source = c.draws.source ∧
      (c.after steps).draws.used = c.draws.used + (asked (c.run steps)).length := by
  induction steps generalizing c with
  | nil => exact ⟨rfl, rfl⟩
  | cons s rest ih =>
    obtain ⟨hsource, hused⟩ := ih (c.step s).2
    obtain ⟨hsource', hused'⟩ := c.draws_step s
    rw [after, List.foldl_cons]
    refine ⟨hsource.trans hsource', ?_⟩
    rw [← after, hused, hused']
    simp [run, asked, Nat.add_assoc]

theorem after_append (c : Client) (a b : List Step) : c.after (a ++ b) = (c.after a).after b :=
  List.foldl_append

theorem run_take (c : Client) (steps : List Step) (n : Nat) :
    c.run (steps.take n) = (c.run steps).take n := by
  induction steps generalizing c n with
  | nil => simp [run]
  | cons s rest ih =>
    cases n with
    | zero => rfl
    | succ n => simp [run, ih]

theorem used_mono (c : Client) (steps : List Step) {n m : Nat} (h : n ≤ m) :
    (c.after (steps.take n)).draws.used ≤ (c.after (steps.take m)).draws.used := by
  have hsplit : steps.take n ++ (steps.take m).drop n = steps.take m := by
    have htake : (steps.take m).take n = steps.take n := by rw [List.take_take, Nat.min_eq_left h]
    rw [← htake, List.take_append_drop]
  rw [← hsplit, after_append, (draws_after (c.after (steps.take n)) _).2]
  exact Nat.le_add_right _ _

variable {steps : List Step} {n : Nat} {call : Call} {r : Report}

theorem Relays.begin_eq (h : c.Relays steps n call r) : call.draws.source = c.draws.source ∧
    call.draws.used = c.draws.used + (asked ((c.run steps).take n)).length := by
  obtain ⟨⟨options, -, rfl⟩, -⟩ := h
  have hdraws := c.draws_after (steps.take n)
  rwa [run_take] at hdraws

/-- The stretches of two relays do not meet. -/
theorem Relays.end_le (h : c.Relays steps n call r) {m : Nat} {call' : Call} {r' : Report}
    (h' : c.Relays steps m call' r') (hnm : n < m) :
    call.draws.used + r.asked.length ≤ call'.draws.used := by
  have hnext : (c.after (steps.take (n + 1))).draws.used = call.draws.used + r.asked.length := by
    obtain ⟨⟨options, hs, rfl⟩, rfl⟩ := h
    have hstep := ((c.after (steps.take n)).draws_step (.relay options)).2
    rw [List.take_add_one, hs, Option.toList, after_concat, hstep]
    simp [asked, step, relay_eq, call]
  obtain ⟨⟨options', -, rfl⟩, -⟩ := h'
  rw [← hnext]
  exact c.used_mono steps hnm

/-- Each relay of a run has draws of its own: none if it is turned away, one for a given node of the
session and two if there is none, whatever fails later. They follow those of the relays before it and
come before those of the relays behind it; the last one is the entropy, and the first one picks the
node. In any two runs relays come to the same if they have the same signer, provider, input, options
and draws. With another provider or other options they still draw, sign and hand over the same. -/
theorem relays_draw_own (h : c.Relays steps n call r) :
    call.DrawsOwn r ∧ call.draws.source = c.draws.source ∧
    call.draws.used = c.draws.used + (asked ((c.run steps).take n)).length ∧
    (∀ m call' r', c.Relays steps m call' r' → n < m →
      call.draws.used + r.asked.length ≤ call'.draws.used) ∧
    ∀ (c' : Client) steps' m call' r', c'.Relays steps' m call' r' →
      call'.relayer.signer = call.relayer.signer → call'.input = call.input →
      call.draws.AgreeOn call'.draws r.asked.length →
      (call'.relayer.provider = call.relayer.provider → call'.options = call.options → r' = r) ∧
      (call.relayer.provider ≠ none → call'.relayer.provider ≠ none → r.AgreesBefore r') := by
  have hdraws : call.DrawsOwn r := by
    have hcourse := call.course h.asked_nil
    rw [← h.answered] at hcourse
    exact hcourse.drawsOwn
  obtain ⟨hsource, hused⟩ := h.begin_eq
  refine ⟨hdraws, hsource, hused, fun m call' r' h' hnm => h.end_le h' hnm, ?_⟩
  intro c' steps' m call' r' h' hsigner hinput hagree
  rw [h.answered] at hagree
  have halike (hprovider : call'.relayer.provider.isNone = call.relayer.provider.isNone) :
      call.Alike call' := ⟨h.asked_nil, h'.asked_nil, hsigner, hprovider, hinput, hagree⟩
  rw [h.answered, h'.answered]
  refine ⟨fun hprovider hoptions => ?_, fun hsome hsome' => ?_⟩
  · exact (halike (congrArg Option.isNone hprovider)).report_eq hprovider hoptions
  · refine (halike ?_).agreesBefore
    rw [Option.isNone_eq_false_iff.mpr (Option.isSome_iff_ne_none.mpr hsome),
      Option.isNone_eq_false_iff.mpr (Option.isSome_iff_ne_none.mpr hsome')]

/-- Two relays of the sample draw a node and an entropy each, and the second one goes on in the stream
behind the first. -/
theorem relays_draw_own_sample : ∃ (c : Client) (steps : List Step) (call call' : Call)
    (r r' : Report), c.Relays steps 3 call r ∧ c.Relays steps 4 call' r' ∧
      r.asked = [2, entropyBound] ∧ call.DrawsOwn r ∧
      call.draws.used + 2 ≤ call'.draws.used := by
  let steps : List Step :=
    [.signer sampleRelayer.signer, .provider sampleRelayer.provider, .edit fun _ => sampleInput,
      .relay none, .relay none]
  let c : Client := { draws := .ofList [4, 9, 1, 2] }
  have h : c.Relays steps 3 _ _ := ⟨⟨none, rfl, rfl⟩, rfl⟩
  have h' : c.Relays steps 4 _ _ := ⟨⟨none, rfl, rfl⟩, rfl⟩
  obtain ⟨hdraws, -, -, hend, -⟩ := relays_draw_own h
  have hasked := hdraws.random _ rfl rfl rfl
  have hlater := hend 4 _ _ h' (by decide)
  rw [hasked] at hlater
  exact ⟨c, steps, _, _, _, _, h, h', hasked, hdraws, hlater⟩

end Client
end RelayClient
