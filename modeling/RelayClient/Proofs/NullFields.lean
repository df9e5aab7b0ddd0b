import RelayClient.Session
import RelayClient.Proofs.DocumentReading
import RelayClient.Proofs.Outcomes

/-!
# Null in the description of a session

A header, nodes and chains that are null are read as if they were left out. A text that is null is
not: it is read as the text `None`, and a null height is no number, so that the session is then a
different one or none at all.
-/
namespace RelayClient

namespace Entries

variable {es : Entries} {key name : String}

def withoutNulls (es : Entries) : Entries := es.filter (·.2.kind ≠ .null)

/-- Entries with a change to what stands under a text key. -/
def under (key : String) (f : Value → Value) : Entries → Entries
  | [] => []
  | (.text k, v) :: r => (.text k, if k = Text.ofString key then f v else v) :: under key f r
  | e :: r => e :: under key f r

theorem value?_eq_none_of_forall (h : ∀ e ∈ es, (Value.text (Text.ofString key)).same e.1 = false) :
    value? key es = none := by
  induction es with
  | nil => rfl
  | cons e es ih =>
    obtain ⟨he, hes⟩ := List.forall_mem_cons.mp h
    obtain ⟨k, v⟩ := e
    cases k with
    | text k =>
      have hk : ¬ k = Text.ofString key := by
        rintro rfl
        simp [Value.same] at he
      rw [value?, if_neg hk, ih hes]
    | _ => exact ih hes

/-- An entry that is null counts as absent, since no other one has its key. -/
theorem value?_withoutNulls (h : es.Pairwise fun d e => d.1.same e.1 = false) :
    value? key es.withoutNulls = (value? key es).filter (·.kind ≠ .null) := by
  induction es with
  | nil => rfl
  | cons e es ih =>
    obtain ⟨hfresh, hes⟩ := List.pairwise_cons.mp h
    obtain ⟨k, v⟩ := e
    have hcons : withoutNulls ((k, v) :: es) =
        if v.kind ≠ .null then (k, v) :: withoutNulls es else withoutNulls es := by
      simp [withoutNulls, List.filter_cons]
    rw [hcons]
    cases k with
    | text k =>
      by_cases hk : k = Text.ofString key
      · subst hk
        rw [value?, if_pos rfl, Option.filter_some]
        split
        · rename_i hv
          rw [if_pos (decide_eq_true hv), value?, if_pos rfl]
        · rename_i hv
          rw [if_neg (by simpa using hv), ih hes, value?_eq_none_of_forall hfresh, Option.filter_none]
      · split
        · rw [value?, value?, if_neg hk, if_neg hk, ih hes]
        · rw [value?, if_neg hk, ih hes]
    | _ =>
      split
      · exact ih hes
      · exact ih hes

theorem value?_under (f : Value → Value) : value? name (es.under key f) =
    if name = key then (value? name es).map f else value? name es := by
  induction es with
  | nil => simp [under, value?]
  | cons e es ih =>
    obtain ⟨k, v⟩ := e
    cases k with
    | text k =>
      rw [under, value?, value?]
      by_cases hk : k = Text.ofString name
      · subst hk
        have hname : Text.ofString name = Text.ofString key ↔ name = key :=
          ⟨Text.ofString_injective, congrArg _⟩
        rw [if_pos rfl, if_pos rfl]
        simp only [hname]
        split <;> rfl
      · rw [if_neg hk, if_neg hk, ih]
    | _ => exact ih

end Entries

namespace Value

variable {v : Value} {key name : String}

def withoutNulls : Value → Value
  | object entries => object (Entries.withoutNulls entries)
  | v => v

/-- An object with a change to what stands under a text key. -/
def under (key : String) (f : Value → Value) : Value → Value
  | object entries => object (Entries.under key f entries)
  | v => v

def onItems (f : Value → Value) : Value → Value
  | array items => array (items.map f)
  | v => v

/-- The description of a session without the null entries of its own, its header and its nodes. -/
def sessionWithoutNulls (v : Value) : Value :=
  (v.withoutNulls.under "header" withoutNulls).under "nodes" (onItems withoutNulls)

theorem get?_withoutNulls (h : Json.isJson v) :
    v.withoutNulls.get? key = (v.get? key).map (Option.filter (·.kind ≠ .null)) := by
  cases v with
  | object entries =>
    simp only [Json.isJson, Bool.and_eq_true, decide_eq_true_eq] at h
    rw [withoutNulls, get?, Entries.value?_withoutNulls h.2]
    rfl
  | _ => rfl

theorem get?_under (f : Value → Value) : (v.under key f).get? name =
    if name = key then (v.get? name).map (Option.map f) else v.get? name := by
  cases v with
  | object entries =>
    rw [under, get?, Entries.value?_under]
    split
    · rfl
    · rfl
  | _ => simp [under, get?, Except.map]

/-- How the description of a session changes what stands under a name. -/
def sessionChange (name : String) : Value → Value :=
  if name = "header" then withoutNulls else if name = "nodes" then onItems withoutNulls else id

theorem get?_sessionWithoutNulls (h : Json.isJson v) : v.sessionWithoutNulls.get? name =
    (v.get? name).map fun o => (o.filter (·.kind ≠ .null)).map (sessionChange name) := by
  rw [sessionWithoutNulls, get?_under, get?_under, get?_withoutNulls h, sessionChange]
  by_cases hheader : name = "header"
  · subst hheader
    cases v.get? "header" <;> simp [Except.map]
  · by_cases hnodes : name = "nodes"
    · subst hnodes
      cases v.get? "nodes" <;> simp [Except.map]
    · rw [if_neg hnodes, if_neg hheader, if_neg hheader, if_neg hnodes]
      cases v.get? name <;> simp [Except.map]

end Value

/-- The same fields but for those that are null, which the second value leaves out. -/
def LeavesOut (v w : Value) (key : String) : Prop :=
  w.get? key = (v.get? key).map (Option.filter (·.kind ≠ .null))

namespace LeavesOut

variable {v w : Value} {key : String} {α : Type} {a : α}

theorem cases (h : LeavesOut v w key) :
    v.get? key = .ok (some .null) ∧ w.get? key = .ok none ∨
    v.get? key ≠ .ok (some .null) ∧ w.get? key = v.get? key := by
  rw [LeavesOut] at h
  cases hv : v.get? key with
  | error f =>
    rw [hv] at h
    exact .inr ⟨nofun, h⟩
  | ok o =>
    rw [hv] at h
    cases o with
    | none => exact .inr ⟨nofun, h⟩
    | some x =>
      cases x with
      | null => exact .inl ⟨rfl, h⟩
      | _ => exact .inr ⟨nofun, h⟩

/-- Where null is read as absence, leaving it out changes nothing. -/
theorem bind_eq (h : LeavesOut v w key) (read : Option Value → Except Fault α)
    (hnull : read (some .null) = read none) :
    v.get? key >>= read = w.get? key >>= read := by
  obtain ⟨hv, hw⟩ | ⟨-, hw⟩ := h.cases
  · rw [hv, hw, ok_bind, ok_bind, hnull]
  · rw [hw]

/-- Where null is read as something else, the result stays the same only if there is no null. -/
theorem bind_eq_ok_iff (h : LeavesOut v w key) (read : Option Value → Except Fault α)
    (hnull : ∀ a, read none = .ok a → read (some .null) ≠ .ok a) (ha : w.get? key >>= read = .ok a) :
    v.get? key >>= read = .ok a ↔ v.get? key ≠ .ok (some .null) := by
  obtain ⟨hv, hw⟩ | ⟨hv, hw⟩ := h.cases
  · rw [hw] at ha
    rw [hv]
    exact iff_of_false (hnull a ha) fun hne => hne rfl
  · rw [hw] at ha
    exact iff_of_true ha hv

/-- A text that is null is read as `None`, and one that is left out is empty. -/
theorem textField_eq_ok_iff (h : LeavesOut v w key) {t : Value} (ht : textField w key = .ok t) :
    textField v key = .ok t ↔ v.get? key ≠ .ok (some .null) := by
  refine h.bind_eq_ok_iff (fun o => pure (Value.text (o.getD "").display)) ?_ ht
  rintro _ ⟨⟩ hnone
  have hsame : Text.ofString "None" = Text.ofString "" := Value.text.inj (Except.ok.inj hnone)
  exact absurd (Text.ofString_injective hsame) (by decide)

theorem elementsField_eq (h : LeavesOut v w key) : elementsField v key = elementsField w key :=
  h.bind_eq _ rfl

end LeavesOut

def heightField (v : Value) : Except Fault Int := do
  ((← v.get? "session_height").getD (.int 0)).toInteger

theorem LeavesOut.heightField_eq_ok_iff {v w : Value} (h : LeavesOut v w "session_height") {n : Int}
    (hn : heightField w = .ok n) :
    heightField v = .ok n ↔ v.get? "session_height" ≠ .ok (some .null) :=
  h.bind_eq_ok_iff (fun o => (o.getD (.int 0)).toInteger) (fun _ _ => nofun) hn

theorem Node.ofValue_eq_ok_iff {v : Value} {n : Node} : Node.ofValue v = .ok n ↔
    textField v "public_key" = .ok n.publicKey ∧ textField v "service_url" = .ok n.serviceUrl ∧
      textField v "address" = .ok n.address ∧ elementsField v "chains" = .ok n.chains := by
  obtain ⟨publicKey, serviceUrl, address, chains⟩ := n
  simp only [Node.ofValue, bind_eq_ok_iff, pure_eq_ok_iff, Node.mk.injEq]
  grind

theorem SessionHeader.ofValue_eq_ok_iff {v : Value} {h : SessionHeader} :
    SessionHeader.ofValue v = .ok h ↔ textField v "app_public_key" = .ok h.appPublicKey ∧
      textField v "chain" = .ok h.chain ∧ ∃ n, heightField v = .ok n ∧ h.sessionHeight = .int n := by
  obtain ⟨appPublicKey, chain, height⟩ := h
  simp only [SessionHeader.ofValue, heightField, bind_eq_ok_iff, pure_eq_ok_iff,
    SessionHeader.mk.injEq]
  grind

theorem Session.ofValue_eq_ok_iff {v : Value} {s : Session} : Session.ofValue v = .ok s ↔
    v.get? "header" >>= headerOf = .ok s.header ∧
      (elementsField v "nodes" >>= fun items => items.mapM Node.ofValue) = .ok s.nodes ∧
      textField v "key" = .ok s.key := by
  obtain ⟨header, nodes, key⟩ := s
  simp only [Session.ofValue, bind_eq_ok_iff, pure_eq_ok_iff, Session.mk.injEq]
  grind

/-- Null in none of the texts of a node: without the nulls it is the same node. -/
theorem Node.ofValue_withoutNulls_iff {v : Value} (h : Json.isJson v) {n : Node}
    (hn : Node.ofValue v.withoutNulls = .ok n) : Node.ofValue v = .ok n ↔
      ∀ name ∈ ["public_key", "service_url", "address"], v.get? name ≠ .ok (some .null) := by
  have hleaves (key : String) : LeavesOut v v.withoutNulls key := Value.get?_withoutNulls h
  obtain ⟨hkey, hurl, haddress, hchains⟩ := Node.ofValue_eq_ok_iff.mp hn
  rw [Node.ofValue_eq_ok_iff, (hleaves _).textField_eq_ok_iff hkey,
    (hleaves _).textField_eq_ok_iff hurl, (hleaves _).textField_eq_ok_iff haddress,
    (hleaves _).elementsField_eq]
  simp [hchains]

theorem SessionHeader.ofValue_withoutNulls_iff {v : Value} (h : Json.isJson v) {s : SessionHeader}
    (hs : SessionHeader.ofValue v.withoutNulls = .ok s) : SessionHeader.ofValue v = .ok s ↔
      ∀ name ∈ ["app_public_key", "chain", "session_height"], v.get? name ≠ .ok (some .null) := by
  have hleaves (key : String) : LeavesOut v v.withoutNulls key := Value.get?_withoutNulls h
  obtain ⟨hkey, hchain, n, hn, hheight⟩ := SessionHeader.ofValue_eq_ok_iff.mp hs
  have hint (m : Int) : s.sessionHeight = .int m ↔ m = n := by
    rw [hheight, Value.int.injEq, eq_comm]
  simp only [SessionHeader.ofValue_eq_ok_iff, (hleaves _).textField_eq_ok_iff hkey,
    (hleaves _).textField_eq_ok_iff hchain, hint, exists_eq_right,
    (hleaves _).heightField_eq_ok_iff hn, List.forall_mem_cons]
  simp

/-- Items that are changed before they are read are read as the same exactly if each of them is. -/
theorem mapM_map_iff {α : Type} {read : Value → Except Fault α} {change : Value → Value}
    {same : Value → Prop} {items : List Value} {as : List α}
    (h : ∀ v ∈ items, ∀ a, read (change v) = .ok a → (read v = .ok a ↔ same v))
    (has : (items.map change).mapM read = .ok as) :
    items.mapM read = .ok as ↔ ∀ v ∈ items, same v := by
  induction items generalizing as with
  | nil => exact iff_of_true has nofun
  | cons v items ih =>
    obtain ⟨hv, hitems⟩ := List.forall_mem_cons.mp h
    simp only [List.map_cons, List.mapM_cons, bind_eq_ok_iff, pure_eq_ok_iff] at has ⊢
    obtain ⟨a, ha, bs, hbs, rfl⟩ := has
    rw [List.forall_mem_cons, ← hv a ha, ← ih hitems hbs]
    constructor
    · rintro ⟨_, hread, _, hreads, ⟨⟩⟩
      exact ⟨hread, hreads⟩
    · rintro ⟨hread, hreads⟩
      exact ⟨a, hread, bs, hreads, rfl⟩

namespace Session

variable {v : Value} {s : Session}

/-- A text or a height of a session that is null. -/
inductive HasNull (v : Value) : Prop where
  | key : v.get? "key" = .ok (some .null) → HasNull v
  | header (w : Value) (name : String) : v.get? "header" = .ok (some w) →
      name ∈ ["app_public_key", "chain", "session_height"] → w.get? name = .ok (some .null) → HasNull v
  | node (items : List Value) (n : Value) (name : String) :
      v.get? "nodes" = .ok (some (.array items)) → n ∈ items →
      name ∈ ["public_key", "service_url", "address"] → n.get? name = .ok (some .null) → HasNull v

theorem everywhere_of_get? (h : v.everywhere Json.isJson) {key : String} {w : Value}
    (hw : v.get? key = .ok (some w)) : w.everywhere Json.isJson := by
  cases v with
  | object entries =>
    rw [Value.everywhere, Bool.and_eq_true] at h
    exact Value.everywhere_of_value? h.2 (Except.ok.inj hw)
  | _ => cases hw

theorem headerOf_some {w : Value} (hw : w.kind ≠ .null) :
    headerOf (some w) = SessionHeader.ofValue w >>= fun s => pure (some s) := by
  cases w with
  | null => exact absurd rfl hw
  | _ => rfl

/-- The header is the same exactly if it holds no null; whether it is null itself does not matter. -/
theorem header_iff (h : v.everywhere Json.isJson) {header : Option SessionHeader}
    (hheader : v.sessionWithoutNulls.get? "header" >>= headerOf = .ok header) :
    v.get? "header" >>= headerOf = .ok header ↔ ∀ w, v.get? "header" = .ok (some w) →
      ∀ name ∈ ["app_public_key", "chain", "session_height"], w.get? name ≠ .ok (some .null) := by
  rw [Value.get?_sessionWithoutNulls (Value.holds_of_everywhere h)] at hheader
  cases hv : v.get? "header" with
  | error f =>
    rw [hv] at hheader
    cases hheader
  | ok o =>
    rw [hv] at hheader
    cases o with
    | none => exact iff_of_true hheader nofun
    | some w =>
      simp only [Except.ok.injEq, Option.some.injEq, forall_eq']
      by_cases hkind : w.kind = .null
      · cases w with
        | null => exact iff_of_true hheader fun _ _ => nofun
        | _ => cases hkind
      · have hw : Json.isJson w := Value.holds_of_everywhere (everywhere_of_get? h hv)
        have hchanged : w.withoutNulls.kind ≠ .null := by
          cases w <;> exact hkind
        have hfilter : (some w).filter (·.kind ≠ .null) = some w := by
          rw [Option.filter_some, if_pos (decide_eq_true hkind)]
        have hchange : Value.sessionChange "header" = Value.withoutNulls := if_pos rfl
        have hread : headerOf (some w.withoutNulls) = .ok header := by
          simpa only [Except.map, hfilter, Option.map_some, hchange, ok_bind] using hheader
        rw [headerOf_some hchanged] at hread
        rw [ok_bind, headerOf_some hkind]
        obtain ⟨s, hs, hsome⟩ := bind_eq_ok_iff.mp hread
        rw [← SessionHeader.ofValue_withoutNulls_iff hw hs, ← Except.ok.inj hsome]
        simp only [bind_eq_ok_iff, pure_eq_ok_iff, Option.some.injEq, exists_eq_right]

theorem elementsField_array {items : List Value} {key : String}
    (hv : v.get? key = .ok (some (.array items))) : elementsField v key = .ok items := by
  rw [elementsField, hv, ok_bind]
  cases items <;> rfl

theorem nodes_iff (h : v.everywhere Json.isJson) {nodes : List Node}
    (hnodes : (elementsField v.sessionWithoutNulls "nodes" >>= fun items => items.mapM Node.ofValue) =
      .ok nodes) :
    (elementsField v "nodes" >>= fun items => items.mapM Node.ofValue) = .ok nodes ↔
      ∀ items, v.get? "nodes" = .ok (some (.array items)) → ∀ n ∈ items,
        ∀ name ∈ ["public_key", "service_url", "address"], n.get? name ≠ .ok (some .null) := by
  have hget : v.sessionWithoutNulls.get? "nodes" =
      (v.get? "nodes").map fun o => (o.filter (·.kind ≠ .null)).map (Value.onItems Value.withoutNulls) :=
    Value.get?_sessionWithoutNulls (Value.holds_of_everywhere h)
  by_cases harray : ∃ items, v.get? "nodes" = .ok (some (.array items))
  · obtain ⟨items, hv⟩ := harray
    have hitems : ∀ n ∈ items, Json.isJson n := by
      have hall := everywhere_of_get? h hv
      rw [Value.everywhere, Bool.and_eq_true] at hall
      exact fun n hn => Value.holds_of_everywhere (Value.everywhere_of_mem hall.2 hn)
    rw [hv] at hget
    rw [elementsField_array hget, ok_bind] at hnodes
    rw [elementsField_array hv, ok_bind, hv]
    simp only [Except.ok.injEq, Option.some.injEq, Value.array.injEq, forall_eq']
    exact mapM_map_iff (fun n hn a ha => Node.ofValue_withoutNulls_iff (hitems n hn) ha) hnodes
  · have hsame : elementsField v.sessionWithoutNulls "nodes" = elementsField v "nodes" := by
      rw [elementsField, elementsField, hget]
      cases hv : v.get? "nodes" with
      | error f => rfl
      | ok o =>
        cases o with
        | none => rfl
        | some w =>
          cases w with
          | array items => exact absurd ⟨items, hv⟩ harray
          | _ => rfl
    rw [hsame] at hnodes
    exact iff_of_true hnodes fun items hv => absurd ⟨items, hv⟩ harray

/-- A session that is described by JSON is the same without the nulls of its description exactly if
these are a header, nodes and chains, or no fields of it at all. -/
theorem ofValue_sessionWithoutNulls_iff (h : v.everywhere Json.isJson)
    (hs : Session.ofValue v.sessionWithoutNulls = .ok s) : Session.ofValue v = .ok s ↔ ¬ HasNull v := by
  obtain ⟨hheader, hnodes, hkey⟩ := ofValue_eq_ok_iff.mp hs
  have hleaves : LeavesOut v v.sessionWithoutNulls "key" := by
    rw [LeavesOut, Value.get?_sessionWithoutNulls (Value.holds_of_everywhere h)]
    cases v.get? "key" <;> simp [Except.map, Value.sessionChange]
  rw [ofValue_eq_ok_iff, header_iff h hheader, nodes_iff h hnodes, hleaves.textField_eq_ok_iff hkey]
  constructor
  · rintro ⟨hheader, hnodes, hkey⟩ hnull
    cases hnull with
    | key hget => exact hkey hget
    | header w name hget hname hnull => exact hheader w hget name hname hnull
    | node items n name hget hn hname hnull => exact hnodes items hget n hn name hname hnull
  · intro hnull
    exact ⟨fun w hget name hname hw => hnull (.header w name hget hname hw),
      fun items hget n hn name hname hw => hnull (.node items n name hget hn hname hw),
      fun hget => hnull (.key hget)⟩

private def nulledChains : Value :=
  .object [("header", .null), ("key", "session"),
    ("nodes", .array [.object [("public_key", "a1b2"), ("chains", .null)]])]

theorem ofValue_sessionWithoutNulls_iff_chains :
    ofValue nulledChains = .ok { nodes := [{ publicKey := "a1b2" }], key := "session" } := by
  refine (ofValue_sessionWithoutNulls_iff (by decide +kernel) (by rfl)).mpr fun h => ?_
  cases h with
  | key hkey => cases Option.some.inj (Except.ok.inj hkey)
  | header w name hw hname hnull =>
    cases Option.some.inj (Except.ok.inj hw)
    cases hnull
  | node items n name hitems hn hname hnull =>
    cases Option.some.inj (Except.ok.inj hitems)
    cases List.mem_singleton.mp hn
    simp only [List.mem_cons, List.not_mem_nil, or_false] at hname
    obtain rfl | rfl | rfl := hname
    · cases Option.some.inj (Except.ok.inj hnull)
    · cases Except.ok.inj hnull
    · cases Except.ok.inj hnull

private def nulledKey : Value := .object [("key", .null)]

private def nulledHeight : Value := .object [("header", .object [("session_height", .null)])]

/-- The key of a session is the text `None` for a null one, and a null height ends the reading. Both
sessions are read with their defaults once the null is left out. -/
theorem ofValue_of_null_fields :
    ofValue nulledKey = .ok { key := "None" } ∧
      ofValue nulledKey.sessionWithoutNulls = .ok { key := "" } ∧
      ofValue nulledHeight = .error (.notInteger .null) ∧
      ofValue nulledHeight.sessionWithoutNulls = .ok { header := some { sessionHeight := .int 0 } } ∧
      ¬ ∀ (v : Value) (s : Session), v.everywhere Json.isJson →
        ofValue v.sessionWithoutNulls = .ok s → ofValue v = .ok s := by
  refine ⟨by rfl, by rfl, by rfl, by rfl, fun h => ?_⟩
  exact absurd (h nulledHeight _ (by decide +kernel) (by rfl)) nofun

end Session
end RelayClient
