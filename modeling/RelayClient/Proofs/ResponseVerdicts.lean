import RelayClient.HttpProvider
import RelayClient.Proofs.LegibleText
import RelayClient.Proofs.RelayRecords

/-!
# Every answer has one verdict

A posted relay is answered by a status and by bytes. Whatever they are, the answer is taken for an
output, for a refusal, or for one of four failures, and the form of its document says for which. The
forms are given here without the functions that read them.
-/
namespace RelayClient

/-- A member as text: it is this text, or it is left out and the text is empty. -/
def Entries.HoldsText (entries : Entries) (key : String) (t : Text) : Prop :=
  Entries.value? key entries = some (.text t) ∨ Entries.value? key entries = none ∧ t = []

theorem textMember?_eq_some_iff {entries : Entries} {key : String} {t : Text} :
    textMember? entries key = some t ↔ Entries.HoldsText entries key t := by
  unfold textMember? Entries.HoldsText
  cases Entries.value? key entries with
  | none => simp [eq_comm]
  | some v => cases v <;> simp

namespace Value

/-- A document of an output: an object in which response and signature are text or left out. -/
def IsOutput (v : Value) (o : RelayOutput) : Prop :=
  ∃ entries, v = .object entries ∧ Entries.HoldsText entries "response" o.response ∧
    Entries.HoldsText entries "signature" o.signature

/-- A document of a refusal: an object whose error is an object with the code and the texts, and
whose dispatch is left out, null or an object. -/
def IsRefusal (v : Value) (x : Refusal) : Prop :=
  ∃ entries error code, v = .object entries ∧
    Entries.value? "error" entries = some (.object error) ∧
    Entries.value? "code" error = some code ∧ Refusal.code? code = some x.code ∧
    Entries.HoldsText error "codespace" x.codespace ∧ Entries.HoldsText error "message" x.message ∧
    (Entries.value? "dispatch" entries = none ∨ Entries.value? "dispatch" entries = some .null ∨
      ∃ dispatch, Entries.value? "dispatch" entries = some (.object dispatch))

end Value

theorem RelayOutput.ofValue?_eq_some_iff {v : Value} {o : RelayOutput} :
    ofValue? v = some o ↔ v.IsOutput o := by
  obtain ⟨response, signature⟩ := o
  cases v with
  | object entries =>
    simp only [ofValue?, Value.IsOutput, Option.bind_eq_bind, Option.bind_eq_some_iff,
      textMember?_eq_some_iff, Option.pure_def, Option.some.injEq, RelayOutput.mk.injEq,
      Value.object.injEq, exists_eq_left']
    constructor
    · rintro ⟨_, hresponse, _, hsignature, rfl, rfl⟩
      exact ⟨hresponse, hsignature⟩
    · rintro ⟨hresponse, hsignature⟩
      exact ⟨_, hresponse, _, hsignature, rfl, rfl⟩
  | _ => simp [ofValue?, Value.IsOutput]

namespace Refusal

theorem hasDispatch_iff {v : Option Value} :
    hasDispatch v = true ↔ v = none ∨ v = some .null ∨ ∃ entries, v = some (.object entries) := by
  cases v with
  | none => simp [hasDispatch]
  | some v => cases v <;> simp [hasDispatch]

theorem ofError?_eq_some_iff {v : Value} {x : Refusal} : ofError? v = some x ↔
    ∃ entries code, v = .object entries ∧ Entries.value? "code" entries = some code ∧
      code? code = some x.code ∧ Entries.HoldsText entries "codespace" x.codespace ∧
      Entries.HoldsText entries "message" x.message := by
  obtain ⟨number, codespace, message⟩ := x
  cases v with
  | object entries =>
    simp only [ofError?, Option.bind_eq_bind, Option.bind_eq_some_iff, textMember?_eq_some_iff,
      Option.pure_def, Option.some.injEq, Refusal.mk.injEq, Value.object.injEq]
    constructor
    · rintro ⟨_, ⟨code, hcode, hnumber⟩, _, hcodespace, _, hmessage, rfl, rfl, rfl⟩
      exact ⟨entries, code, rfl, hcode, hnumber, hcodespace, hmessage⟩
    · rintro ⟨_, code, rfl, hcode, hnumber, hcodespace, hmessage⟩
      exact ⟨_, ⟨code, hcode, hnumber⟩, _, hcodespace, _, hmessage, rfl, rfl, rfl⟩
  | _ => simp [ofError?]

theorem ofValue?_eq_some_iff {v : Value} {x : Refusal} : ofValue? v = some x ↔ v.IsRefusal x := by
  cases v with
  | object entries =>
    simp only [ofValue?, Value.IsRefusal, Option.bind_eq_bind, Option.bind_eq_some_iff,
      ofError?_eq_some_iff, Value.object.injEq, ← hasDispatch_iff]
    constructor
    · rintro ⟨_, ⟨_, herror, error, code, rfl, hcode, hnumber, hcodespace, hmessage⟩, hdispatch⟩
      split at hdispatch
      · cases hdispatch
        exact ⟨entries, error, code, rfl, herror, hcode, hnumber, hcodespace, hmessage, ‹_›⟩
      · cases hdispatch
    · rintro ⟨_, error, code, rfl, herror, hcode, hnumber, hcodespace, hmessage, hdispatch⟩
      refine ⟨x, ⟨_, herror, error, code, rfl, hcode, hnumber, hcodespace, hmessage⟩, ?_⟩
      rw [if_pos hdispatch]
      rfl
  | _ => simp [ofValue?, Value.IsRefusal]

end Refusal

namespace Response

variable {r : Response} {servicer : Value}

/-- What an answer is taken for, with the reason. -/
inductive Ruling (r : Response) (servicer : Value) : Except Fault RelayOutput → Prop where
  | failed (status : 500 ≤ r.status) : r.Ruling servicer (.error (.serverStatus r.status))
  | rejected (v : Value) (x : Refusal) (status : r.status < 500 ∧ r.status ≠ 200)
      (parses : Json.parse? r.body = some v) (form : v.IsRefusal x) :
      r.Ruling servicer (.error (.rejected x.code x.codespace x.message servicer))
  | unexpected (status : r.status < 500 ∧ r.status ≠ 200)
      (form : ∀ v x, Json.parse? r.body = some v → ¬ v.IsRefusal x) :
      r.Ruling servicer (.error (.unexpectedStatus r.status))
  | nonJson (t : Text) (status : r.status = 200) (parses : Json.parse? r.body = none)
      (reads : r.text = .ok t) : r.Ruling servicer (.error (.nonJson t))
  | output (v : Value) (o : RelayOutput) (status : r.status = 200)
      (parses : Json.parse? r.body = some v) (form : v.IsOutput o) : r.Ruling servicer (.ok o)
  | malformed (v : Value) (t : Text) (status : r.status = 200)
      (parses : Json.parse? r.body = some v) (form : ∀ o, ¬ v.IsOutput o)
      (reads : r.text = .ok t) : r.Ruling servicer (.error (.malformed t))

/-- An answer of status 200 without an output has to have a text, so that it can be told. -/
def IsTellable (r : Response) : Prop :=
  r.status = 200 → (∀ v o, Json.parse? r.body = some v → ¬ v.IsOutput o) → r.IsLegible

theorem ruling (h : r.IsTellable) : r.Ruling servicer (r.verdict servicer).1 := by
  unfold verdict
  split
  · exact .failed ‹_›
  rename_i hstatus
  have hbelow : r.status < 500 := by omega
  split
  · rename_i hother
    split
    · rename_i x hx
      obtain ⟨v, hparses, hform⟩ := Option.bind_eq_some_iff.mp hx
      exact .rejected v x ⟨hbelow, hother⟩ hparses (Refusal.ofValue?_eq_some_iff.mp hform)
    · rename_i hnone
      refine .unexpected ⟨hbelow, hother⟩ fun v x hparses hform => ?_
      rw [hparses, Option.bind_some, Refusal.ofValue?_eq_some_iff.mpr hform] at hnone
      cases hnone
  rename_i hok
  have hok : r.status = 200 := Classical.not_not.mp hok
  split
  · rename_i hparses
    obtain ⟨t, ht⟩ := r.exists_text_iff.mpr (h hok fun v o hv => by
      cases hparses.symm.trans hv)
    simp only [withText, ht]
    exact .nonJson t hok hparses ht
  · rename_i v hparses
    split
    · rename_i o ho
      exact .output v o hok hparses (RelayOutput.ofValue?_eq_some_iff.mp ho)
    · rename_i hnone
      have hform (o : RelayOutput) : ¬ v.IsOutput o := fun ho => by
        rw [RelayOutput.ofValue?_eq_some_iff.mpr ho] at hnone
        cases hnone
      obtain ⟨t, ht⟩ := r.exists_text_iff.mpr (h hok fun w o hw => by
        cases hparses.symm.trans hw
        exact hform o)
      simp only [withText, ht]
      exact .malformed v t hok hparses hform ht

theorem Ruling.verdict_eq {outcome : Except Fault RelayOutput} (h : r.Ruling servicer outcome) :
    (r.verdict servicer).1 = outcome := by
  cases h with
  | failed status => rw [verdict, if_pos status]
  | rejected v x status parses form =>
    rw [verdict, if_neg (Int.not_le.mpr status.1), if_pos status.2, parses, Option.bind_some,
      Refusal.ofValue?_eq_some_iff.mpr form]
  | unexpected status form =>
    have hnone : (Json.parse? r.body).bind Refusal.ofValue? = none := by
      rw [Option.bind_eq_none_iff]
      intro v hparses
      cases hx : Refusal.ofValue? v with
      | none => rfl
      | some x => exact absurd (Refusal.ofValue?_eq_some_iff.mp hx) (form v x hparses)
    rw [verdict, if_neg (Int.not_le.mpr status.1), if_pos status.2, hnone]
  | nonJson t status parses reads =>
    simp only [verdict, status, parses, withText, reads]
    rfl
  | output v o status parses form =>
    simp only [verdict, status, parses, RelayOutput.ofValue?_eq_some_iff.mpr form]
    rfl
  | malformed v t status parses form reads =>
    have hnone : RelayOutput.ofValue? v = none := by
      cases ho : RelayOutput.ofValue? v with
      | none => rfl
      | some o => exact absurd (RelayOutput.ofValue?_eq_some_iff.mp ho) (form o)
    simp only [verdict, status, parses, hnone, withText, reads]
    rfl

end Response

namespace HttpProvider

variable {p : HttpProvider} {r : Response} {h : Handover} {url : Text} {body : Bytes}

theorem outcome_relay (hurl : relayUrl h.url = .ok url)
    (hbody : h.input.toValue >>= canonicalBytes = .ok body) :
    (p.relay (.ok r) h).outcome = (r.verdict h.input.proof.servicerPublicKey).1 := by
  rw [relay, hurl, hbody]

/-- A relay that is posted and answered ends as the answer has to be taken, and in no other way: with
the failure of the node at a status of 500 and above; at 200 with an output, or with the text of what
is no document or no output; and at any other status with the refusal that the document describes, or
else with the status. -/
theorem relay_outcome_iff (hurl : relayUrl h.url = .ok url)
    (hbody : h.input.toValue >>= canonicalBytes = .ok body) (htellable : r.IsTellable)
    (outcome : Except Fault RelayOutput) :
    (p.relay (.ok r) h).outcome = outcome ↔
      r.Ruling h.input.proof.servicerPublicKey outcome := by
  rw [outcome_relay hurl hbody]
  constructor
  · rintro rfl
    exact Response.ruling htellable
  · exact Response.Ruling.verdict_eq

/-- A relay without any content, in its canonical bytes. -/
def emptyHandover : Handover where
  url := "http://x"
  input := {
    payload := {}
    metadata := {}
    proof := {
      requestHash := ""
      entropy := .int 0
      sessionBlockHeight := .int 0
      servicerPublicKey := "ee"
      blockchain := ""
      token := some {} } }
  options := none

theorem encodes_emptyHandover :
    ∃ body, emptyHandover.input.toValue >>= canonicalBytes = .ok body := by
  obtain ⟨document, hdocument⟩ : ∃ document, emptyHandover.input.toValue = .ok document := ⟨_, rfl⟩
  have hwritable : document.everywhere GoJson.isWritable := by
    obtain rfl := Except.ok.inj hdocument
    decide +kernel
  rw [hdocument, ok_bind]
  exact ⟨_, canonicalBytes_eq_ok_iff.mpr (encode_of_isWritable hwritable)⟩

def answer (status : Int) (document : String) : Response where
  status := status
  body := (Text.ofString document).flatMap Utf8.encodeOne

/-- The answer of a servicer that refuses, with a code written as a float. -/
theorem relay_outcome_iff_refused :
    (relay {} (.ok (answer 400 "\x7b\"error\":\x7b\"code\":7.0\x7d,\"dispatch\":null\x7d"))
      emptyHandover).outcome = .error (.rejected 7 [] [] "ee") := by
  obtain ⟨body, hbody⟩ := encodes_emptyHandover
  let r := answer 400 "\x7b\"error\":\x7b\"code\":7.0\x7d,\"dispatch\":null\x7d"
  have hread : ((Json.parse? r.body).bind Refusal.ofValue?).map
      (fun x => (x.code, x.codespace, x.message)) = some (7, [], []) := by decide +kernel
  obtain ⟨⟨code, codespace, message⟩, hrefusal, heq⟩ := Option.map_eq_some_iff.mp hread
  cases heq
  obtain ⟨v, hparses, hform⟩ := Option.bind_eq_some_iff.mp hrefusal
  have htellable : r.IsTellable := fun _ _ => .inr ⟨.utf8, rfl, trivial⟩
  exact (relay_outcome_iff (r := r) rfl hbody htellable _).mpr
    (.rejected v _ (by decide) hparses (Refusal.ofValue?_eq_some_iff.mp hform))

private theorem output_has_surrogate : ∃ o,
    (relay {} (.ok (answer 200 "\x7b\"response\":\"\\ud800\"\x7d")) emptyHandover).outcome = .ok o ∧
      o.response.hasSurrogate = true := by
  obtain ⟨body, hbody⟩ := encodes_emptyHandover
  let r := answer 200 "\x7b\"response\":\"\\ud800\"\x7d"
  have hread : ((Json.parse? r.body).bind RelayOutput.ofValue?).map (·.response.hasSurrogate) =
      some true := by decide +kernel
  obtain ⟨o, houtput, hsurrogate⟩ := Option.map_eq_some_iff.mp hread
  obtain ⟨v, hparses, hform⟩ := Option.bind_eq_some_iff.mp houtput
  have hruling : r.Ruling (.text "ee") (.ok o) :=
    .output v o rfl hparses (RelayOutput.ofValue?_eq_some_iff.mp hform)
  refine ⟨o, ?_, hsurrogate⟩
  rw [outcome_relay rfl hbody]
  exact hruling.verdict_eq

private theorem outcome_of_unmarked :
    (relay {} (.ok { answer 200 "oops" with
      mediaType := some "text/plain; charset=utf-16".toList }) emptyHandover).outcome =
        .error (.undecodable (.noByteOrderMark "UTF-16")) := by
  obtain ⟨body, hbody⟩ := encodes_emptyHandover
  let r : Response := { answer 200 "oops" with
    mediaType := some "text/plain; charset=utf-16".toList }
  have hparses : Json.parse? r.body = none := by
    have hnone : (Json.parse? r.body).isNone = true := by decide +kernel
    exact Option.isNone_iff_eq_none.mp hnone
  have htext : r.text = .error (.undecodable (.noByteOrderMark "UTF-16")) := by
    have hlacks : (Charset.ofMediaType r.mediaType).toOption.bind (·.lacksMark r.body) =
        some "UTF-16" := by decide +kernel
    obtain ⟨s, hset, hmark⟩ := Option.bind_eq_some_iff.mp hlacks
    cases hs : Charset.ofMediaType r.mediaType with
    | error f =>
      rw [hs] at hset
      cases hset
    | ok _ =>
      rw [hs] at hset
      cases hset
      rw [Response.text, hs]
      exact Charset.decode_of_lacksMark (by rintro rfl; cases hmark) hmark
  rw [outcome_relay (r := r) rfl hbody]
  have hstatus : r.status = 200 := rfl
  simp only [Response.verdict, hstatus, hparses, Response.withText, htext]
  rfl

/-- An output may hold a lone surrogate, and an answer without the byte order mark that its character
set needs ends a relay with the fault of its text. -/
theorem outcomes_of_odd_answers :
    (∃ o, (relay {} (.ok (answer 200 "\x7b\"response\":\"\\ud800\"\x7d")) emptyHandover).outcome =
      .ok o ∧ o.response.hasSurrogate = true) ∧
    (relay {} (.ok { answer 200 "oops" with
      mediaType := some "text/plain; charset=utf-16".toList }) emptyHandover).outcome =
        .error (.undecodable (.noByteOrderMark "UTF-16")) :=
  ⟨output_has_surrogate, outcome_of_unmarked⟩

end HttpProvider
end RelayClient
