import Mathlib.Data.List.Nodup
import RelayClient.HttpProvider
import RelayClient.Proofs.HexDigits
import RelayClient.Proofs.SessionServicers

/-!
# Which headers the options of a relay override

A post carries two headers of the provider and all those of the options. A header of the options
replaces one of the provider that has its very name. Receivers read names in any case, though, and a
name in another spelling does not replace anything: it is sent beside the one that it stands for.
-/
namespace RelayClient

/-- The name of a header as receivers compare it: in small letters. -/
def Value.folded : Value → Text
  | .text t => t.lower
  | _ => []

theorem Value.same_iff {v w : Value} (hv : v.kind = .text) (hw : w.kind = .text) :
    v.same w = true ↔ v = w := by
  constructor
  · intro h
    exact Value.eq_of_same h hw
  · rintro rfl
    obtain ⟨t, rfl⟩ := Value.eq_text_of_kind hv
    simp [Value.same]

namespace Entries

variable {es own options : Entries} {e : Value × Value} {key value : Value}

/-- Entries under texts, no text being there twice. -/
structure HasNames (es : Entries) : Prop where
  texts : ∀ e ∈ es, e.1.kind = .text
  nodup : (es.map (·.1)).Nodup

/-- Entries under texts, no two of which are spellings of one name. -/
structure IsHeaders (es : Entries) : Prop where
  texts : ∀ e ∈ es, e.1.kind = .text
  distinct : (es.map (·.1.folded)).Nodup

theorem IsHeaders.hasNames (h : es.IsHeaders) : es.HasNames where
  texts := h.texts
  nodup := by
    have hdistinct : ((es.map (·.1)).map Value.folded).Nodup := by
      rw [List.map_map]
      exact h.distinct
    exact hdistinct.of_map

theorem HasNames.mem_set_iff (h : es.HasNames) (hkey : key.kind = .text) :
    e ∈ es.set key value ↔ e = (key, value) ∨ e ∈ es ∧ e.1 ≠ key := by
  induction es with
  | nil => simp [set]
  | cons d es ih =>
    obtain ⟨k, v⟩ := d
    obtain ⟨htext, htexts⟩ := List.forall_mem_cons.mp h.texts
    obtain ⟨hfresh, hnodup⟩ := List.nodup_cons.mp h.nodup
    by_cases hk : k = key
    · have hsame : k.same key = true := (Value.same_iff htext hkey).mpr hk
      have hother : ∀ d ∈ es, d.1 ≠ key := by
        intro d hd heq
        exact hfresh (List.mem_map.mpr ⟨d, hd, heq.trans hk.symm⟩)
      subst hk
      simp only [set, hsame, if_true, List.mem_cons]
      grind
    · have hsame : ¬ k.same key = true := fun hs => hk ((Value.same_iff htext hkey).mp hs)
      have hrest := ih ⟨htexts, hnodup⟩
      simp only [set, hsame, List.mem_cons]
      grind

theorem HasNames.set (h : es.HasNames) (hkey : key.kind = .text) (value : Value) :
    (es.set key value).HasNames where
  texts := by
    intro e he
    obtain rfl | ⟨hmem, -⟩ := (h.mem_set_iff hkey).mp he
    · exact hkey
    · exact h.texts e hmem
  nodup := by
    induction es with
    | nil => simp [Entries.set]
    | cons d es ih =>
      obtain ⟨k, v⟩ := d
      obtain ⟨htext, htexts⟩ := List.forall_mem_cons.mp h.texts
      obtain ⟨hfresh, hnodup⟩ := List.nodup_cons.mp h.nodup
      have hrest : HasNames es := ⟨htexts, hnodup⟩
      rw [Entries.set]
      split
      · exact h.nodup
      · rename_i hsame
        rw [List.map_cons, List.nodup_cons]
        refine ⟨?_, ih hrest⟩
        intro hmem
        obtain ⟨d, hd, heq⟩ := List.mem_map.mp hmem
        obtain rfl | ⟨hold, -⟩ := (hrest.mem_set_iff hkey).mp hd
        · exact hsame ((Value.same_iff htext hkey).mpr heq.symm)
        · exact hfresh (List.mem_map.mpr ⟨d, hold, heq⟩)

def merge (own options : Entries) : Entries := options.foldl (fun es h => es.set h.1 h.2) own

/-- What is set last counts, and what nothing is set over stays. -/
theorem HasNames.mem_merge_iff (hown : own.HasNames) (hoptions : options.HasNames) :
    e ∈ own.merge options ↔ e ∈ options ∨ e ∈ own ∧ ∀ h ∈ options, h.1 ≠ e.1 := by
  induction options generalizing own with
  | nil => simp [merge]
  | cons h options ih =>
    obtain ⟨htext, htexts⟩ := List.forall_mem_cons.mp hoptions.texts
    obtain ⟨hfresh, hnodup⟩ := List.nodup_cons.mp hoptions.nodup
    have hother : ∀ g ∈ options, g.1 ≠ h.1 := by
      intro g hg heq
      exact hfresh (List.mem_map.mpr ⟨g, hg, heq⟩)
    have hrest := ih (hown.set htext h.2) ⟨htexts, hnodup⟩
    rw [merge] at hrest ⊢
    rw [List.foldl_cons, hrest, hown.mem_set_iff htext, List.mem_cons, List.forall_mem_cons]
    constructor
    · rintro (hmem | ⟨rfl | ⟨hmem, hne⟩, hall⟩)
      · exact .inl (.inr hmem)
      · exact .inl (.inl rfl)
      · exact .inr ⟨hmem, Ne.symm hne, hall⟩
    · rintro ((rfl | hmem) | ⟨hmem, hne, hall⟩)
      · exact .inr ⟨.inl rfl, hother⟩
      · exact .inl hmem
      · exact .inr ⟨.inr ⟨hmem, Ne.symm hne⟩, hall⟩

theorem HasNames.merge (hown : own.HasNames) (hoptions : ∀ h ∈ options, h.1.kind = .text) :
    (own.merge options).HasNames := by
  induction options generalizing own with
  | nil => exact hown
  | cons h options ih =>
    obtain ⟨htext, htexts⟩ := List.forall_mem_cons.mp hoptions
    exact ih (hown.set htext h.2) htexts

/-- What a receiver is promised: each name once in whatever spelling, all headers of the options, and
those of the provider that no option names. -/
structure Overrides (options own sent : Entries) : Prop where
  once : (sent.map (·.1.folded)).Nodup
  mem_iff : ∀ e, e ∈ sent ↔ e ∈ options ∨ e ∈ own ∧ ∀ h ∈ options, h.1.folded ≠ e.1.folded

/-- Whatever stands for the same name in both is spelt in the same way. -/
def SpeltAlike (options own : Entries) : Prop :=
  ∀ h ∈ options, ∀ e ∈ own, h.1.folded = e.1.folded → h.1 = e.1

/-- A header that is respelt would be left beside the one that respells it. -/
theorem Overrides.speltAlike (h : Overrides options own (own.merge options)) (hown : own.IsHeaders)
    (hoptions : options.IsHeaders) : SpeltAlike options own := by
  intro g hg e he hname
  by_contra hne
  have hkept : ∀ g' ∈ options, g'.1 ≠ e.1 := by
    intro g' hg' heq
    have hsame : g' = g := List.inj_on_of_nodup_map hoptions.distinct hg' hg (by rw [heq, hname])
    exact hne (hsame ▸ heq)
  have hsent : e ∈ own.merge options :=
    (hown.hasNames.mem_merge_iff hoptions.hasNames).mpr (.inr ⟨he, hkept⟩)
  obtain hoption | ⟨-, hunnamed⟩ := (h.mem_iff e).mp hsent
  · exact hkept e hoption rfl
  · exact hunnamed g hg hname

theorem SpeltAlike.mem_merge_iff (h : SpeltAlike options own) (hown : own.HasNames)
    (hoptions : options.HasNames) : e ∈ own.merge options ↔
      e ∈ options ∨ e ∈ own ∧ ∀ g ∈ options, g.1.folded ≠ e.1.folded := by
  rw [hown.mem_merge_iff hoptions]
  refine or_congr_right (and_congr_right fun he => ?_)
  constructor
  · intro hne g hg hname
    exact hne g hg (h g hg e he hname)
  · intro hne g hg heq
    exact hne g hg (by rw [heq])

theorem SpeltAlike.overrides (h : SpeltAlike options own) (hown : own.IsHeaders)
    (hoptions : options.IsHeaders) : Overrides options own (own.merge options) where
  mem_iff e := h.mem_merge_iff hown.hasNames hoptions.hasNames
  once := by
    have hsent : (own.merge options).HasNames := hown.hasNames.merge hoptions.texts
    have hmem (e : Value × Value) := h.mem_merge_iff (e := e) hown.hasNames hoptions.hasNames
    refine hsent.nodup.of_map.map_on ?_
    intro d hd e he hname
    obtain hd | ⟨hd, hdfree⟩ := (hmem d).mp hd
    · obtain he | ⟨-, hefree⟩ := (hmem e).mp he
      · exact List.inj_on_of_nodup_map hoptions.distinct hd he hname
      · exact absurd hname (hefree d hd)
    · obtain he | ⟨he, -⟩ := (hmem e).mp he
      · exact absurd hname.symm (hdfree e he)
      · exact List.inj_on_of_nodup_map hown.distinct hd he hname

end Entries

def Sent.under (headers : Entries) (timeout : Value) : Sent → Sent
  | .posted url body _ _ => .posted url body headers timeout
  | .taken url body options => .taken url body options

namespace HttpProvider

variable (p : HttpProvider) (o : Options)

def ownHeaders : Entries := [("Content-Type", "application/json"), ("User-Agent", .text p.userAgent)]

theorem headers_some : p.headers (some o) = p.ownHeaders.merge o.headers := rfl

theorem isHeaders_ownHeaders : p.ownHeaders.IsHeaders where
  texts := by simp [ownHeaders, Value.kind]
  distinct := by
    have hnames : p.ownHeaders.map (·.1.folded) =
        [Text.lower (Text.ofString "Content-Type"), Text.lower (Text.ofString "User-Agent")] := rfl
    rw [hnames]
    decide

def sentWith (s : Sent) : Sent := s.under (p.headers (some o)) (p.timeoutFor (some o))

/-- A journal whose handovers have other options and whose posts are made with them. -/
def journalWith (j : Journal) : Journal := { j with
  handed := j.handed.map fun h => { h with options := some o }
  sent := j.sent.map (p.sentWith o) }

theorem relay_options (transport : Transport) (h : Handover) :
    p.relay transport { h with options := some o } =
      { p.relay transport { h with options := none } with
        sent := (p.relay transport { h with options := none }).sent.map (p.sentWith o) } := by
  simp only [relay]
  cases relayUrl h.url with
  | error f => rfl
  | ok url =>
  cases h.input.toValue >>= canonicalBytes with
  | error f => rfl
  | ok body =>
  cases transport with
  | error f => rfl
  | ok response => rfl

def serviceWith (s : Service) : Service := { s with
  handed := s.handed.map fun h => { h with options := some o }
  sent := s.sent.map (p.sentWith o) }

theorem serve_options (transport : Transport) (i : Input) (signer : Signer) (node : Node)
    (entropy : Int) :
    i.serve signer (p.toProvider transport) (some o) node entropy =
      p.serviceWith o (i.serve signer (p.toProvider transport) none node entropy) := by
  unfold Input.serve
  cases i.digested (some node) (.int entropy) with
  | error f => rfl
  | ok proof =>
  obtain ⟨unsigned, digest⟩ := proof
  dsimp only
  cases signer.sign digest with
  | error f => rfl
  | ok signature =>
    have hrelay := p.relay_options o transport (i.handover none node unsigned signature)
    simp only [Provider.serve, serviceWith, toProvider, Input.handover] at hrelay ⊢
    rw [hrelay]
    rfl

theorem run_options (transport : Transport) (r : Relayer) (i : Input) (draws : Draws)
    (hprovider : r.provider = some (p.toProvider transport)) :
    (r.relay i (some o)).run { draws } =
      Prod.map id (p.journalWith o) ((r.relay i none).run { draws }) := by
  cases hpassed : r.failedPrecondition? i with
  | some precondition =>
    rw [Relayer.run_relay_of_failed hpassed, Relayer.run_relay_of_failed hpassed]
    rfl
  | none =>
  obtain ⟨P⟩ := Relayer.exists_passed hpassed
  have hcalled : P.provider = p.toProvider transport :=
    Option.some.inj (P.hasProvider.symm.trans hprovider)
  cases hnode : i.nodeAt draws with
  | error f =>
    rw [P.run_relay_of_error hnode, P.run_relay_of_error hnode]
    rfl
  | ok node =>
    rw [P.run_relay hnode, P.run_relay hnode, hcalled, p.serve_options o]
    rfl

/-- Headers of the options override those of the provider exactly if each that stands for one of these
is spelt alike. They are sent as they are in any case, and with them the headers of the provider whose
very names they do not use. The rest of a post and of the relay that it is made for, its proof and what
was signed of it, is the same as without options. -/
theorem options_override_iff (ho : o.headers.IsHeaders) :
    (Entries.Overrides o.headers p.ownHeaders (p.headers (some o)) ↔
      Entries.SpeltAlike o.headers p.ownHeaders) ∧
    (p.headers (some o)).HasNames ∧
    (∀ e, e ∈ p.headers (some o) ↔
      e ∈ o.headers ∨ e ∈ p.ownHeaders ∧ ∀ h ∈ o.headers, h.1 ≠ e.1) ∧
    (∀ transport (h : Handover), p.relay transport { h with options := some o } =
      { p.relay transport { h with options := none } with
        sent := (p.relay transport { h with options := none }).sent.map (p.sentWith o) }) ∧
    ∀ transport (r : Relayer) i draws, r.provider = some (p.toProvider transport) →
      (r.relay i (some o)).run { draws } =
        Prod.map id (p.journalWith o) ((r.relay i none).run { draws }) := by
  have hown := p.isHeaders_ownHeaders
  refine ⟨⟨fun h => h.speltAlike hown ho, fun h => h.overrides hown ho⟩,
    hown.hasNames.merge ho.texts, ?_, p.relay_options o, p.run_options o⟩
  intro e
  rw [headers_some, hown.hasNames.mem_merge_iff ho.hasNames]

/-- A header of the options that is spelt like one of the provider's, and one that stands for none. -/
theorem options_override_iff_spelt_alike :
    let o : Options := { headers := [("Content-Type", "text/plain"), ("X-Relay-Client", "tests")] }
    let p : HttpProvider := {}
    o.headers.IsHeaders ∧ Entries.Overrides o.headers p.ownHeaders (p.headers (some o)) ∧
      ((sampleRelayer.relay sampleInput (some o)).run { draws := .ofList [4, 9] }).1 =
        ((sampleRelayer.relay sampleInput none).run { draws := .ofList [4, 9] }).1 := by
  intro o p
  have ho : o.headers.IsHeaders := ⟨by simp [o, Value.kind], by decide⟩
  obtain ⟨hiff, -, -, -, hrun⟩ := p.options_override_iff o ho
  refine ⟨ho, hiff.mpr ?_, ?_⟩
  · have hclient : Text.lower (Text.ofString "X-Relay-Client") ∉
        [Text.lower (Text.ofString "Content-Type"), Text.lower (Text.ofString "User-Agent")] := by decide
    have hagent : Text.lower (Text.ofString "Content-Type") ≠ Text.lower (Text.ofString "User-Agent") := by
      decide
    simp_all [o, ownHeaders, Value.folded, Entries.SpeltAlike]
  · rw [hrun _ sampleRelayer sampleInput (.ofList [4, 9]) rfl, Prod.map_fst, id]

/-- In small letters the type of the content is sent beside the one that it should override. -/
theorem options_override_iff_respelt :
    let o : Options := { headers := [("content-type", "text/plain")] }
    let p : HttpProvider := {}
    o.headers.IsHeaders ∧
      p.headers (some o) = ([("Content-Type", "application/json"),
        ("User-Agent", "viper-relay/0.1.0"), ("content-type", "text/plain")] : Entries) ∧
      ¬ Entries.Overrides o.headers p.ownHeaders (p.headers (some o)) := by
  intro o p
  refine ⟨⟨by simp [o, Value.kind], by decide⟩, rfl, ?_⟩
  intro hoverrides
  have htwice : ¬ ((p.headers (some o)).map (·.1.folded)).Nodup := by decide
  exact htwice hoverrides.once

end HttpProvider
end RelayClient
