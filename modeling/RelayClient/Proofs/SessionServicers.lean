import RelayClient.Proofs.CallCourse
import RelayClient.Proofs.ServicerCheck

/-!
# Servicers of the session

A client may change its signer, its provider and its input between two relays as it likes. Still
nothing is signed or handed over but for a servicer of the session that the input holds at that
moment: the session is asked for each relay again, and the node that it answers with is the one that
the proof, the handover and the output are about.
-/
namespace RelayClient

theorem Value.eq_of_same {v w : Value} (h : v.same w) (hw : w.kind = .text) : v = w := by
  cases w with
  | text t =>
    cases v with
    | text s =>
      simp only [same, beq_iff_eq] at h
      rw [h]
    | _ => simp [same, number?] at h
  | _ => cases hw

/-- A node of the session has this public key. A key that is no text may be spelt in another way. -/
def Input.KnowsKey (i : Input) (key : Value) : Prop :=
  ∃ s n, i.session = some s ∧ n ∈ s.nodes ∧
    (n.publicKey = key ∨ key.kind ≠ .text ∧ n.publicKey.same key)

theorem Input.IsServedBy.knowsKey {i : Input} {n : Node} (h : i.IsServedBy n) :
    i.KnowsKey n.publicKey := by
  obtain ⟨s, hs, ⟨-, hhas⟩ | ⟨-, hmem⟩⟩ := h
  · obtain ⟨m, hm, hsame⟩ := List.any_eq_true.mp hhas
    refine ⟨s, m, hs, hm, ?_⟩
    by_cases hkind : n.publicKey.kind = .text
    · exact .inl (Value.eq_of_same hsame hkind)
    · exact .inr ⟨hkind, hsame⟩
  · exact ⟨s, n, hs, hmem, .inl rfl⟩

/-- The faults of a draw: nothing is below its bound, or nothing at the position drawn. -/
def Fault.IsDraw : Fault → Prop
  | .boundNotPositive | .noPosition _ => True
  | _ => False

theorem Fault.IsHashing.not_isDraw {f : Fault} (h : f.IsHashing) : ¬ f.IsDraw := by
  cases f <;> first | exact id | exact h.elim

theorem Input.Drafted.knowsKey {i : Input} {node : Node} {entropy : Int} {unsigned : Proof}
    {digest : Bytes} (h : i.Drafted node entropy unsigned digest) :
    i.KnowsKey unsigned.servicerPublicKey := by
  rw [h.about.1]
  exact h.serves.knowsKey

/-- What the report of a call keeps to. -/
structure Call.KeepsToSession (c : Call) (r : Report) : Prop where
  /-- Whatever is signed is the digest of a proof that names a key of the session. -/
  signed : ∀ d ∈ r.signed, ∃ node entropy p, c.input.Drafted node entropy p d ∧
    c.input.KnowsKey p.servicerPublicKey
  /-- A handover goes to the URL of the node that serves the input, with a proof that names it. -/
  handed : ∀ h ∈ r.handed, ∃ n, c.input.IsServedBy n ∧ h.url = n.serviceUrl ∧
    h.input.proof.servicerPublicKey = n.publicKey
  sent : ∀ x ∈ r.sent, ∃ provider h, c.relayer.provider = some provider ∧ h ∈ r.handed ∧
    x ∈ (provider.relay h).sent
  signedOnce : r.signed.length ≤ 1
  handedOnce : r.handed.length ≤ 1
  /-- A handover holds what the signer has answered before. -/
  signedBefore : ∀ h ∈ r.handed, ∃ signer d, c.relayer.signer = some signer ∧ r.signed = [d] ∧
    h.input.proof.digest = .ok d ∧ signer.sign d = .ok h.input.proof.signature
  /-- An output is about the proof and the node of the handover. -/
  output : ∀ o, r.outcome = .ok o → ∃ provider h, c.relayer.provider = some provider ∧
    r.handed = [h] ∧ (provider.relay h).outcome = .ok o.relayOutput ∧ o.proof = h.input.proof ∧
    c.input.IsServedBy o.node ∧ h.url = o.node.serviceUrl ∧
    o.proof.servicerPublicKey = o.node.publicKey
  /-- Draws do not fail: such a fault is the signer's or the provider's own. -/
  drawn : ∀ f, f.IsDraw → r.outcome = .error f →
    (∃ signer d, c.relayer.signer = some signer ∧ r.signed = [d] ∧ signer.sign d = .error f) ∨
    ∃ provider h, c.relayer.provider = some provider ∧ r.handed = [h] ∧
      (provider.relay h).outcome = .error f

theorem Call.KeepsToSession.of_error {c : Call} {f : Fault} {asked : List Int}
    {signed : List Bytes} {logs : List LogRecord} (hlength : signed.length ≤ 1)
    (hsigned : ∀ d ∈ signed, ∃ node entropy p, c.input.Drafted node entropy p d ∧
      c.input.KnowsKey p.servicerPublicKey)
    (hdrawn : f.IsDraw → ∃ signer d, c.relayer.signer = some signer ∧ signed = [d] ∧
      signer.sign d = .error f) :
    c.KeepsToSession ⟨.error f, asked, signed, [], [], logs⟩ where
  signed := hsigned
  handed := nofun
  sent := nofun
  signedOnce := hlength
  handedOnce := Nat.zero_le _
  signedBefore := nofun
  output := nofun
  drawn := by
    rintro _ hf ⟨⟩
    exact .inl (hdrawn hf)

theorem Call.Course.keepsToSession {c : Call} {r : Report} (h : c.Course r) :
    c.KeepsToSession r := by
  cases h with
  | refused p fails => exact .of_error (Nat.zero_le _) nofun False.elim
  | foreign session node passes hasSession hasNode unknown =>
    exact .of_error (Nat.zero_le _) nofun False.elim
  | undigested node f begins hashing =>
    exact .of_error (Nat.zero_le _) nofun fun hf => (hashing.not_isDraw hf).elim
  | unsigned signer node unsigned digest f begins hasSigner drafted signs =>
    refine .of_error (Nat.le_refl _) ?_ fun _ => ⟨signer, digest, hasSigner, rfl, signs⟩
    simpa using ⟨node, _, unsigned, drafted, drafted.knowsKey⟩
  | delivered signer provider node unsigned digest signature handover begins hasSigner hasProvider
      drafted signs hands =>
    subst hands
    exact {
      signed := by simpa using ⟨node, _, unsigned, drafted, drafted.knowsKey⟩
      handed := by simpa using ⟨node, drafted.serves, rfl, drafted.about.1⟩
      sent := fun x hx => ⟨provider, _, hasProvider, List.mem_singleton_self _, hx⟩
      signedOnce := Nat.le_refl _
      handedOnce := Nat.le_refl _
      signedBefore := by simpa using ⟨signer, hasSigner, drafted.digests, signs⟩
      output := by
        intro o ho
        obtain ⟨answer, hanswer, rfl⟩ := map_eq_ok_iff.mp ho
        exact ⟨provider, _, hasProvider, rfl, hanswer, rfl, drafted.serves, rfl, drafted.about.1⟩
      drawn := by
        intro f hf ho
        exact .inr ⟨provider, _, hasProvider, rfl, map_eq_error_iff.mp ho⟩ }

def sampleCall : Call := ⟨sampleRelayer, sampleInput, none, .ofList [4, 9]⟩

namespace Client

/-- Over any run, with its signer, its provider and its input changing as they may and whatever the
source of draws answers, each relay keeps to the session of its moment. -/
theorem run_keepsToSession {c : Client} {steps : List Step} {n : Nat} {r : Report}
    (h : (c.run steps)[n]? = some (some r)) :
    ∃ call, c.Relays steps n call r ∧ call.KeepsToSession r := by
  obtain ⟨call, hcall⟩ := exists_relays h
  have hcourse := call.course hcall.asked_nil
  rw [← hcall.answered] at hcourse
  exact ⟨call, hcall, hcourse.keepsToSession⟩

/-- In the run that sets up the sample and relays it something is sent, and to the session. -/
theorem run_keepsToSession_sample : ∃ (c : Client) (steps : List Step) (r : Report) (call : Call),
    (c.run steps)[3]? = some (some r) ∧ r.sent ≠ [] ∧ call.input.session = sampleInput.session ∧
      call.KeepsToSession r := by
  let steps : List Step :=
    [.signer sampleRelayer.signer, .provider sampleRelayer.provider, .edit fun _ => sampleInput,
      .relay none]
  let c : Client := { draws := .ofList [4, 9] }
  have hrelays : c.Relays steps 3 sampleCall sampleCall.report := ⟨⟨none, rfl, rfl⟩, rfl⟩
  have hsent : sampleCall.report.sent ≠ [] := by
    obtain ⟨⟨_, _, _, _, hposted⟩, -⟩ := sample_posted
    rw [Call.sent_report, sampleCall]
    dsimp only
    exact List.ne_nil_of_mem hposted
  obtain ⟨call, hcall, hkeeps⟩ := run_keepsToSession hrelays.getElem?_run
  obtain rfl := hcall.unique hrelays
  exact ⟨c, steps, _, _, hrelays.getElem?_run, hsent, rfl, hkeeps⟩

end Client
end RelayClient
