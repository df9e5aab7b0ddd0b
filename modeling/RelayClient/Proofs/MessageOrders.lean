import RelayClient.Category
import RelayClient.Proofs.HexDigits
import RelayClient.Proofs.KeyPoints
import RelayClient.Proofs.NumeralReading

/-!
# Messages and what they are ordered with

A message is ordered with its addresses and keys as texts. It is built if all of them can be read,
and otherwise the first that cannot is reported. Its fields show these texts in lower case, each in
its role, and they are enough to build the message again.
-/
namespace RelayClient

theorem decodeHex_hexValue (b : Bytes) : decodeHex (Message.hexValue b) = .ok b := by
  rw [Message.hexValue, decodeHex, Hex.decode?_encode]

theorem hexValue_of_decodeHex {t : Text} {b : Bytes} (h : decodeHex (.text t) = .ok b) :
    Message.hexValue b = .text t.lower := by
  obtain ⟨_, ⟨⟩, ht⟩ := decodeHex_eq_ok_iff.mp h
  rw [Message.hexValue, (Hex.decode?_eq_some_iff.mp ht).2]

namespace PublicKey

theorem parse_hex {v : Value} {k : PublicKey} (h : parse v = .ok k) : parse (.text k.hex) = .ok k := by
  obtain ⟨_, -, -, hchecked⟩ := parse_eq_ok_iff.mp h
  exact parse_eq_ok_iff.mpr ⟨_, rfl, Hex.decode?_encode _, hchecked⟩

theorem hex_of_parse {t : Text} {k : PublicKey} (h : parse (.text t) = .ok k) : k.hex = t.lower := by
  obtain ⟨_, ⟨⟩, ht, -⟩ := parse_eq_ok_iff.mp h
  exact (Hex.decode?_eq_some_iff.mp ht).2.symm

theorem ofBytes_category {bytes : Bytes} {f : Fault} (h : ofBytes bytes = .error f) :
    f.category = .value := by
  obtain ⟨-, -, rfl⟩ | ⟨-, -, rfl⟩ := ofBytes_eq_error_iff.mp h
  · rfl
  · rfl

end PublicKey

namespace Message

variable {source target amount address signer operator : Value} {m : Message}

theorem newSend_eq_ok_iff : newSend source target amount = .ok m ↔
    ∃ b c, decodeHex source = .ok b ∧ decodeHex target = .ok c ∧ m = .send b c amount := by
  simp only [newSend, bind_eq_ok_iff, pure_eq_ok_iff, exists_and_left, @eq_comm Message m]

theorem newUnstakeApp_eq_ok_iff : newUnstakeApp address = .ok m ↔
    ∃ b, decodeHex address = .ok b ∧ m = .beginUnstakeApp b := by
  simp only [newUnstakeApp, bind_eq_ok_iff, pure_eq_ok_iff, @eq_comm Message m]

theorem newUnjailApp_eq_ok_iff : newUnjailApp address = .ok m ↔
    ∃ b, decodeHex address = .ok b ∧ m = .unjailApp b := by
  simp only [newUnjailApp, bind_eq_ok_iff, pure_eq_ok_iff, @eq_comm Message m]

theorem newUnstakeNode_eq_ok_iff : newUnstakeNode signer operator = .ok m ↔
    ∃ b c, decodeHex signer = .ok b ∧ decodeHex operator = .ok c ∧ m = .beginUnstakeNode c b := by
  simp only [newUnstakeNode, bind_eq_ok_iff, pure_eq_ok_iff, exists_and_left, @eq_comm Message m]

theorem newUnjailNode_eq_ok_iff : newUnjailNode signer operator = .ok m ↔
    ∃ b c, decodeHex signer = .ok b ∧ decodeHex operator = .ok c ∧ m = .unjailNode c b := by
  simp only [newUnjailNode, bind_eq_ok_iff, pure_eq_ok_iff, exists_and_left, @eq_comm Message m]

end Message

/-- What a message is built from. -/
inductive Order where
  | send (source target : Text) (amount : Int)
  | stakeApp (key : Text) (chains : List Value) (amount : Int)
  | unstakeApp (address : Text)
  | unjailApp (address : Text)
  | stakeNode (key serviceUrl output : Text) (chains : List Value) (amount : Int)
  | unstakeNode (signer operator : Text)
  | unjailNode (signer operator : Text)

namespace Order

def build : Order → Except Fault Message
  | send source target amount => Message.newSend (.text source) (.text target) (.int amount)
  | stakeApp key chains amount => Message.newStakeApp (.text key) (.array chains) (.int amount)
  | unstakeApp address => Message.newUnstakeApp (.text address)
  | unjailApp address => Message.newUnjailApp (.text address)
  | stakeNode key serviceUrl output chains amount =>
    Message.newStakeNode (.text key) (.text serviceUrl) (.text output) (.array chains) (.int amount)
  | unstakeNode signer operator => Message.newUnstakeNode (.text signer) (.text operator)
  | unjailNode signer operator => Message.newUnjailNode (.text signer) (.text operator)

def amount? : Order → Option Int
  | send _ _ amount | stakeApp _ _ amount | stakeNode _ _ _ _ amount => some amount
  | unstakeApp _ | unjailApp _ | unstakeNode .. | unjailNode .. => none

/-- A text that has to be read. -/
inductive Argument where
  | address (t : Text)
  | key (t : Text)

def Argument.IsGood : Argument → Prop
  | address t => Hex.IsHex t
  | key t => ∃ k, PublicKey.parse (.text t) = .ok k

def Argument.fault? : Argument → Option Fault
  | address t => if Hex.IsHex t then none else some (.hexMalformed t)
  | key t => match PublicKey.parse (.text t) with
    | .ok _ => none
    | .error f => some f

/-- The arguments of an order, from the one that is read first to the one that is read last. -/
def arguments : Order → List Argument
  | send source target _ => [.address source, .address target]
  | stakeApp key _ _ => [.key key]
  | unstakeApp address | unjailApp address => [.address address]
  | stakeNode key _ output _ _ => [.key key, .address output]
  | unstakeNode signer operator | unjailNode signer operator => [.address signer, .address operator]

/-- The fields that an order asks for. -/
def fields : Order → List (String × Value)
  | send source target amount => [
      ("from_address", .text source.lower),
      ("to_address", .text target.lower),
      ("amount", .text (Text.ofInt amount))]
  | stakeApp key chains amount => [
      ("pubkey", .text key.lower),
      ("chains", .array chains),
      ("value", .text (Text.ofInt amount))]
  | unstakeApp address => [("application_address", .text address.lower)]
  | unjailApp address => [("address", .text address.lower)]
  | stakeNode key serviceUrl output chains amount => [
      ("public_key", .text key.lower),
      ("chains", .array chains),
      ("value", .text (Text.ofInt amount)),
      ("service_url", .text serviceUrl),
      ("output_address", .text output.lower)]
  | unstakeNode signer operator => [
      ("validator_address", .text operator.lower),
      ("signer_address", .text signer.lower)]
  | unjailNode signer operator => [
      ("address", .text operator.lower),
      ("signer_address", .text signer.lower)]

/-- The builder of an order applied to the fields of a message, the amount being read from its text. -/
def rebuild (o : Order) (fields : List (String × Value)) : Except Fault Message :=
  let field (name : String) : Value := (fields.lookup name).getD .null
  match o with
  | send .. => do
    let amount ← (field "amount").toInteger
    Message.newSend (field "from_address") (field "to_address") (.int amount)
  | stakeApp .. => do
    let amount ← (field "value").toInteger
    Message.newStakeApp (field "pubkey") (field "chains") (.int amount)
  | unstakeApp _ => Message.newUnstakeApp (field "application_address")
  | unjailApp _ => Message.newUnjailApp (field "address")
  | stakeNode .. => do
    let amount ← (field "value").toInteger
    Message.newStakeNode (field "public_key") (field "service_url") (field "output_address")
      (field "chains") (.int amount)
  | unstakeNode .. => Message.newUnstakeNode (field "signer_address") (field "validator_address")
  | unjailNode .. => Message.newUnjailNode (field "signer_address") (field "address")

namespace Argument

/-- Some work reads an argument: it fails with what is wrong with it, and with nothing else. -/
def ReadBy {α : Type} (a : Argument) : Except Fault α → Prop
  | .ok _ => a.fault? = none
  | .error f => a.fault? = some f

theorem address_readBy (t : Text) : (address t).ReadBy (decodeHex (.text t)) := by
  cases h : decodeHex (.text t) with
  | ok b =>
    obtain ⟨_, ⟨⟩, ht⟩ := decodeHex_eq_ok_iff.mp h
    exact if_pos (Hex.exists_decode?_iff.mp ⟨b, ht⟩)
  | error f =>
    obtain ⟨hkind, -⟩ | ⟨_, ⟨⟩, ht, rfl⟩ := decodeHex_eq_error_iff.mp h
    · exact absurd rfl hkind
    · exact if_neg ht

theorem key_readBy (t : Text) : (key t).ReadBy (PublicKey.parse (.text t)) := by
  cases h : PublicKey.parse (.text t) with
  | ok k => rw [ReadBy, fault?, h]
  | error f => rw [ReadBy, fault?, h]

theorem fault?_eq_none_iff {a : Argument} : a.fault? = none ↔ a.IsGood := by
  cases a with
  | address t => simp [fault?, IsGood]
  | key t =>
    rw [fault?, IsGood]
    cases PublicKey.parse (.text t) <;> simp

theorem fault?_category {a : Argument} {f : Fault} (h : a.fault? = some f) : f.category = .value := by
  cases a with
  | address t =>
    rw [fault?] at h
    split at h
    · cases h
    · cases h
      rfl
  | key t =>
    have hparse : PublicKey.parse (.text t) = .error f := by
      have hread := key_readBy t
      cases hp : PublicKey.parse (.text t) with
      | ok k => simp [ReadBy, hp, h] at hread
      | error e => simp_all [ReadBy]
    rw [PublicKey.parse, bind_eq_error_iff, decodeHex_eq_error_iff] at hparse
    obtain (⟨hkind, -⟩ | ⟨_, -, -, rfl⟩) | ⟨bytes, -, hbytes⟩ := hparse
    · exact absurd rfl hkind
    · rfl
    · exact PublicKey.ofBytes_category hbytes

/-- If an argument is read first, what fails is its reading or what comes behind it. -/
theorem ReadBy.bind_eq_error_iff {α β : Type} {a : Argument} {rest : List Argument}
    {x : Except Fault α} {g : α → Except Fault β} {f : Fault} (h : a.ReadBy x)
    (hg : ∀ b, g b = .error f ↔ rest.findSome? fault? = some f) :
    x >>= g = .error f ↔ (a :: rest).findSome? fault? = some f := by
  cases x with
  | ok b =>
    have ha : a.fault? = none := h
    rw [List.findSome?_cons, ha]
    exact hg b
  | error e =>
    have ha : a.fault? = some e := h
    rw [List.findSome?_cons, ha]
    simp [bind, Except.bind]

end Argument

variable {o : Order} {m : Message} {f : Fault}

open Argument in
/-- An order fails with what is wrong with the first of its arguments that cannot be read. -/
theorem build_eq_error_iff : o.build = .error f ↔ o.arguments.findSome? fault? = some f := by
  have hbuilt {α : Type} (a : α) : (.ok a : Except Fault α) = .error f ↔ [].findSome? fault? = some f := by
    simp
  cases o with
  | send source target _ =>
    exact (address_readBy source).bind_eq_error_iff fun _ =>
      (address_readBy target).bind_eq_error_iff fun _ => hbuilt _
  | stakeApp key _ _ => exact (key_readBy key).bind_eq_error_iff fun _ => hbuilt _
  | unstakeApp address | unjailApp address =>
    exact (address_readBy address).bind_eq_error_iff fun _ => hbuilt _
  | stakeNode key _ output _ _ =>
    exact (key_readBy key).bind_eq_error_iff fun _ =>
      (address_readBy output).bind_eq_error_iff fun _ => hbuilt _
  | unstakeNode signer operator | unjailNode signer operator =>
    exact (address_readBy signer).bind_eq_error_iff fun _ =>
      (address_readBy operator).bind_eq_error_iff fun _ => hbuilt _

theorem exists_build_iff : (∃ m, o.build = .ok m) ↔ ∀ a ∈ o.arguments, a.IsGood := by
  have hgood : (∀ a ∈ o.arguments, a.IsGood) ↔ ∀ f, o.build ≠ .error f := by
    calc
      _ ↔ ∀ a ∈ o.arguments, a.fault? = none := by simp only [Argument.fault?_eq_none_iff]
      _ ↔ o.arguments.findSome? Argument.fault? = none := List.findSome?_eq_none_iff.symm
      _ ↔ _ := by simp only [Option.eq_none_iff_forall_ne_some, ne_eq, build_eq_error_iff]
  rw [hgood]
  cases o.build <;> simp

theorem fields_of_build (h : o.build = .ok m) : m.fields = o.fields := by
  cases o with
  | send source target amount =>
    obtain ⟨b, c, hb, hc, rfl⟩ := Message.newSend_eq_ok_iff.mp h
    rw [Message.fields, fields, hexValue_of_decodeHex hb, hexValue_of_decodeHex hc]
    rfl
  | stakeApp key chains amount =>
    obtain ⟨k, cs, hk, ⟨⟩, rfl⟩ := Message.newStakeApp_eq_ok_iff.mp h
    rw [Message.fields, fields, PublicKey.hex_of_parse hk]
    rfl
  | unstakeApp address =>
    obtain ⟨b, hb, rfl⟩ := Message.newUnstakeApp_eq_ok_iff.mp h
    rw [Message.fields, fields, hexValue_of_decodeHex hb]
  | unjailApp address =>
    obtain ⟨b, hb, rfl⟩ := Message.newUnjailApp_eq_ok_iff.mp h
    rw [Message.fields, fields, hexValue_of_decodeHex hb]
  | stakeNode key serviceUrl output chains amount =>
    obtain ⟨k, cs, b, hk, ⟨⟩, hb, rfl⟩ := Message.newStakeNode_eq_ok_iff.mp h
    rw [Message.fields, fields, PublicKey.hex_of_parse hk, hexValue_of_decodeHex hb]
    rfl
  | unstakeNode signer operator =>
    obtain ⟨b, c, hb, hc, rfl⟩ := Message.newUnstakeNode_eq_ok_iff.mp h
    rw [Message.fields, fields, hexValue_of_decodeHex hb, hexValue_of_decodeHex hc]
  | unjailNode signer operator =>
    obtain ⟨b, c, hb, hc, rfl⟩ := Message.newUnjailNode_eq_ok_iff.mp h
    rw [Message.fields, fields, hexValue_of_decodeHex hb, hexValue_of_decodeHex hc]

theorem toInteger_amount (ha : ∀ n ∈ o.amount?, n.natAbs < Nat.pow 10 maxDigits) {n : Int}
    (hn : o.amount? = some n) : (Value.text (Value.int n).display).toInteger = .ok n :=
  Value.toInteger_ofInt (ha n hn)

/-- The fields are enough to build the message again. -/
theorem rebuild_of_build (ha : ∀ n ∈ o.amount?, n.natAbs < Nat.pow 10 maxDigits)
    (h : o.build = .ok m) : o.rebuild m.fields = .ok m := by
  cases o with
  | send source target amount =>
    obtain ⟨b, c, -, -, rfl⟩ := Message.newSend_eq_ok_iff.mp h
    have hread : (send source target amount).rebuild (Message.fields (.send b c (.int amount))) =
        (Value.text (Value.int amount).display).toInteger >>= fun n =>
          Message.newSend (Message.hexValue b) (Message.hexValue c) (.int n) := rfl
    rw [hread, toInteger_amount ha rfl, ok_bind]
    exact Message.newSend_eq_ok_iff.mpr ⟨b, c, decodeHex_hexValue b, decodeHex_hexValue c, rfl⟩
  | stakeApp key chains amount =>
    obtain ⟨k, cs, hk, ⟨⟩, rfl⟩ := Message.newStakeApp_eq_ok_iff.mp h
    have hread : (stakeApp key chains amount).rebuild (Message.fields (.stakeApp k chains (.int amount))) =
        (Value.text (Value.int amount).display).toInteger >>= fun n =>
          Message.newStakeApp (.text k.hex) (.array chains) (.int n) := rfl
    rw [hread, toInteger_amount ha rfl, ok_bind]
    exact Message.newStakeApp_eq_ok_iff.mpr ⟨k, chains, PublicKey.parse_hex hk, rfl, rfl⟩
  | unstakeApp address =>
    obtain ⟨b, -, rfl⟩ := Message.newUnstakeApp_eq_ok_iff.mp h
    exact Message.newUnstakeApp_eq_ok_iff.mpr ⟨b, decodeHex_hexValue b, rfl⟩
  | unjailApp address =>
    obtain ⟨b, -, rfl⟩ := Message.newUnjailApp_eq_ok_iff.mp h
    exact Message.newUnjailApp_eq_ok_iff.mpr ⟨b, decodeHex_hexValue b, rfl⟩
  | stakeNode key serviceUrl output chains amount =>
    obtain ⟨k, cs, b, hk, ⟨⟩, -, rfl⟩ := Message.newStakeNode_eq_ok_iff.mp h
    have hread : (stakeNode key serviceUrl output chains amount).rebuild
        (Message.fields (.stakeNode k chains (.int amount) (.text serviceUrl) b)) =
        (Value.text (Value.int amount).display).toInteger >>= fun n =>
          Message.newStakeNode (.text k.hex) (.text serviceUrl) (Message.hexValue b) (.array chains)
            (.int n) := rfl
    rw [hread, toInteger_amount ha rfl, ok_bind]
    exact Message.newStakeNode_eq_ok_iff.mpr
      ⟨k, chains, b, PublicKey.parse_hex hk, rfl, decodeHex_hexValue b, rfl⟩
  | unstakeNode signer operator =>
    obtain ⟨b, c, -, -, rfl⟩ := Message.newUnstakeNode_eq_ok_iff.mp h
    exact Message.newUnstakeNode_eq_ok_iff.mpr
      ⟨b, c, decodeHex_hexValue b, decodeHex_hexValue c, rfl⟩
  | unjailNode signer operator =>
    obtain ⟨b, c, -, -, rfl⟩ := Message.newUnjailNode_eq_ok_iff.mp h
    exact Message.newUnjailNode_eq_ok_iff.mpr
      ⟨b, c, decodeHex_hexValue b, decodeHex_hexValue c, rfl⟩

/-- An order with an amount of at most the digits allowed is built exactly if all of its arguments can
be read, and otherwise it fails with what is wrong with the first that cannot. The message shows what
was ordered, with its addresses and its key in lower case, and the same message is built from what it
shows. -/
theorem build_round_trip (o : Order) (ha : ∀ n ∈ o.amount?, n.natAbs < Nat.pow 10 maxDigits) :
    ((∃ m, o.build = .ok m) ↔ ∀ a ∈ o.arguments, a.IsGood) ∧
    (∀ f, o.build = .error f ↔ o.arguments.findSome? Argument.fault? = some f) ∧
    (∀ f, o.build = .error f → f.category = .value) ∧
    ∀ m, o.build = .ok m → m.fields = o.fields ∧ o.rebuild m.fields = .ok m := by
  refine ⟨exists_build_iff, fun f => build_eq_error_iff, fun f hf => ?_,
    fun m hm => ⟨fields_of_build hm, rebuild_of_build ha hm⟩⟩
  obtain ⟨a, -, hfault⟩ := List.exists_of_findSome?_eq_some (build_eq_error_iff.mp hf)
  exact Argument.fault?_category hfault

/-- The base point of secp256k1, in mixed case. -/
def pointText : Text :=
  Text.ofString "0279BE667ef9dcbbAC55a06295CE870B07029bfcdb2dce28d959f2815b16F81798"

/-- A node stakes with a point of secp256k1, and the same key is found again in what is shown of it.
If a key is too short and an address is no text of digits, the key is what fails. -/
theorem build_round_trip_stake :
    let o : Order := .stakeNode pointText "u" (Text.ofString "0A") ["0021"] (-7)
    let p : Order := .stakeNode (Text.ofString "ab") "u" (Text.ofString "0x") [] 1
    ∃ k, o.build = .ok (.stakeNode k ["0021"] (.int (-7)) "u" [0x0A]) ∧ k.scheme = .secp256k1 ∧
      o.rebuild o.fields = .ok (.stakeNode k ["0021"] (.int (-7)) "u" [0x0A]) ∧
      p.build = .error (.publicKeyLength 1) ∧ (Fault.publicKeyLength 1).category = .value := by
  intro o p
  have ho : ∀ n ∈ o.amount?, n.natAbs < Nat.pow 10 maxDigits := by
    rintro _ ⟨⟩
    decide +kernel
  have hp : ∀ n ∈ p.amount?, n.natAbs < Nat.pow 10 maxDigits := by
    rintro _ ⟨⟩
    decide +kernel
  obtain ⟨bytes, hbytes⟩ : ∃ bytes, Hex.decode? pointText = some bytes :=
    Hex.exists_decode?_iff.mpr (by decide)
  have hpoint : Secp256k1.isCompressedPoint ((Hex.decode? pointText).getD []) := by decide +kernel
  rw [hbytes, Option.getD_some, Secp256k1.isCompressedPoint_iff] at hpoint
  have hkey : PublicKey.parse (.text pointText) = .ok ⟨.secp256k1, bytes⟩ :=
    PublicKey.parse_eq_ok_iff.mpr ⟨_, rfl, hbytes, hpoint⟩
  have hbuild : o.build = .ok (.stakeNode ⟨.secp256k1, bytes⟩ ["0021"] (.int (-7)) "u" [0x0A]) :=
    Message.newStakeNode_eq_ok_iff.mpr ⟨_, _, _, hkey, rfl, rfl, rfl⟩
  obtain ⟨-, -, -, hbuilt⟩ := build_round_trip o ho
  obtain ⟨hfields, hagain⟩ := hbuilt _ hbuild
  obtain ⟨-, hbad, hcategory, -⟩ := build_round_trip p hp
  have hfault : p.build = .error (.publicKeyLength 1) := (hbad _).mpr rfl
  rw [hfields] at hagain
  exact ⟨_, hbuild, rfl, hagain, hfault, hcategory _ hfault⟩

end Order
end RelayClient
