import CoinKeys.Network.WellKnown
import CoinKeys.Proofs.Outcome
import CoinKeys.Proofs.Text.Lowercase

/-!
# Names of the well-known networks

Each well-known network has its names (`names`), and no two share one. A text is read as a network
exactly if it is one of the names up to the case of ASCII letters (`parseInContext_eq_ok_iff`): case
is folded by the rules for all of Unicode, but no character beyond ASCII leads to a name, because
none of the names has a k.
-/

namespace CoinKeys.Network

open Text

variable {network other : Network} {text : String} {rule : List Char → List Char → Bool}

/-- The names by which a network is read. -/
def names : Network → List String
  | tdcoin => ["tdcoin", "mainnet"]
  | testnet => ["testnet", "test"]
  | regtest => ["regtest"]

/-- Read a network from its name, with a rule for the sigma at the end of a word. -/
def parseInContext (rule : List Char → List Char → Bool) (text : String) :
    Except NetworkError Network :=
  (all.find? (·.answersTo (lowercaseInContext rule text))).elim
    (.error (.unknownNetwork text)) .ok

theorem parseInContext_endsWord (text : String) : parseInContext endsWord text = parse text := by
  unfold parseInContext parse lowercase
  cases all.find? (·.answersTo (lowercaseInContext endsWord text)) <;> rfl

/-! ## Names -/

theorem mem_all (network : Network) : network ∈ all := by
  cases network <;> decide

theorem answersTo_iff {name : String} : network.answersTo name = true ↔ name ∈ network.names := by
  simp only [answersTo, Bool.or_eq_true, beq_iff_eq]
  cases network <;>
    simp only [alias?, Network.name, names, List.mem_cons, List.not_mem_nil, or_false,
      Option.some.injEq, reduceCtorEq, @eq_comm String name]

theorem eq_of_mem_names {name : String} (h : name ∈ network.names) (hother : name ∈ other.names) :
    network = other := by
  have hdisjoint : ∀ a ∈ all, ∀ b ∈ all, ∀ name ∈ a.names, name ∈ b.names → a = b := by decide
  exact hdisjoint network (mem_all network) other (mem_all other) name h hother

/-- Names are written in small ASCII letters other than k. -/
theorem forall_mem_name {name : String} (h : name ∈ network.names) :
    ∀ c ∈ name.toList, (IsAscii c ∧ c ≠ 'k') ∧ c.isUpper = false := by
  cases network <;> simp only [names, List.mem_cons, List.not_mem_nil, or_false] at h
  case tdcoin => rcases h with rfl | rfl <;> simp [IsAscii]
  case testnet => rcases h with rfl | rfl <;> simp [IsAscii]
  case regtest => subst h; simp [IsAscii]

theorem isAscii_of_mem_names {name : String} (h : name ∈ network.names) :
    ∀ c ∈ name.toList, IsAscii c ∧ c ≠ 'k' :=
  fun c hc => (forall_mem_name h c hc).1

theorem toLower_of_mem_names {name : String} (h : name ∈ network.names) : name.toLower = name :=
  toLower_eq_self fun c hc => (forall_mem_name h c hc).2

theorem answersTo_lowercaseInContext_iff :
    network.answersTo (lowercaseInContext rule text) = true ↔ text.toLower ∈ network.names := by
  rw [answersTo_iff]
  refine ⟨fun h => ?_, fun h => ?_⟩
  · have hlower := (lowercaseInContext_eq_iff (isAscii_of_mem_names h)).mp rfl
    rwa [hlower]
  · rwa [(lowercaseInContext_eq_iff (isAscii_of_mem_names h)).mpr rfl]

/-! ## Reading -/

theorem find?_answersTo_iff :
    all.find? (·.answersTo (lowercaseInContext rule text)) = some network ↔
      text.toLower ∈ network.names := by
  rw [find?_eq_some_iff_of_unique, and_iff_right (mem_all network),
    answersTo_lowercaseInContext_iff]
  intro a _ b _ ha hb
  rw [answersTo_lowercaseInContext_iff] at ha hb
  exact eq_of_mem_names ha hb

theorem parseInContext_eq_ok_iff :
    parseInContext rule text = .ok network ↔ text.toLower ∈ network.names := by
  rw [← @find?_answersTo_iff network text rule]
  unfold parseInContext
  cases all.find? (·.answersTo (lowercaseInContext rule text)) <;> simp

theorem parseInContext_eq_error_iff {fault : NetworkError} :
    parseInContext rule text = .error fault ↔
      fault = .unknownNetwork text ∧ ∀ network : Network, text.toLower ∉ network.names := by
  simp only [← @find?_answersTo_iff _ text rule]
  unfold parseInContext
  cases all.find? (·.answersTo (lowercaseInContext rule text)) <;> simp [eq_comm]

/-- What becomes of a sigma at the end of a word does not matter for names. -/
theorem parseInContext_eq_parse (rule : List Char → List Char → Bool) (text : String) :
    parseInContext rule text = parse text := by
  rw [← parseInContext_endsWord]
  cases h : parseInContext endsWord text with
  | ok network => exact parseInContext_eq_ok_iff.mpr (parseInContext_eq_ok_iff.mp h)
  | error fault => exact parseInContext_eq_error_iff.mpr (parseInContext_eq_error_iff.mp h)

theorem parse_eq_ok_iff : parse text = .ok network ↔ text.toLower ∈ network.names := by
  rw [← parseInContext_endsWord, parseInContext_eq_ok_iff]

theorem parse_eq_error_iff {fault : NetworkError} :
    parse text = .error fault ↔
      fault = .unknownNetwork text ∧ ∀ network : Network, text.toLower ∉ network.names := by
  rw [← parseInContext_endsWord, parseInContext_eq_error_iff]

theorem isAscii_of_parse (h : parse text = .ok network) : ∀ c ∈ text.toList, IsAscii c := by
  intro c hc
  have hlower : c.toLower ∈ text.toLower.toList := by
    rw [toList_toLower]
    exact List.mem_map_of_mem hc
  exact isAscii_of_toLower (isAscii_of_mem_names (parse_eq_ok_iff.mp h) _ hlower).1

theorem exists_name_iff :
    (∃ name ∈ network.names, text.toLower = name.toLower) ↔ text.toLower ∈ network.names := by
  refine ⟨fun h => ?_, fun h => ?_⟩
  · obtain ⟨name, hname, heq⟩ := h
    rwa [heq, toLower_of_mem_names hname]
  · exact ⟨text.toLower, h, (toLower_toLower text).symm⟩

theorem parse_name (network : Network) : parse network.name = .ok network := by
  have hname : network.name ∈ network.names := by cases network <;> simp [Network.name, names]
  rw [parse_eq_ok_iff, toLower_of_mem_names hname]
  exact hname

/-- **A text is read as a network exactly if it is one of its names up to the case of ASCII
letters.** So no character beyond ASCII stands in a text that is read, whatever Unicode says of its
case, and every other text is refused as it was given. This does not depend on the rule for the
sigma at the end of a word. What is written for a network is read as that network, and its id leads
to it. -/
theorem parse_names_in_any_case :
    (∀ text network, parse text = .ok network ↔
      ∃ name ∈ network.names, text.toLower = name.toLower) ∧
    (∀ text network, parse text = .ok network → ∀ c ∈ text.toList, IsAscii c) ∧
    (∀ text fault, parse text = .error fault ↔ fault = .unknownNetwork text ∧
      ∀ network : Network, ∀ name ∈ network.names, text.toLower ≠ name.toLower) ∧
    (∀ rule text, parseInContext rule text = parse text) ∧
    ∀ network : Network, parse network.name = .ok network ∧
      ofId? network.params.id = some network := by
  refine ⟨fun text network => ?_, fun text network => isAscii_of_parse, fun text fault => ?_,
    parseInContext_eq_parse, fun network => ⟨parse_name network, ofId?_id network⟩⟩
  · rw [parse_eq_ok_iff, exists_name_iff]
  · rw [parse_eq_error_iff]
    refine and_congr_right fun _ => forall_congr' fun network => ?_
    rw [← exists_name_iff]
    simp only [not_exists, not_and, ne_eq]

/-- Capital letters are read. The capital I with a dot is refused, though its lower-case form starts
with an i, and so is a text that ends in a capital sigma. -/
theorem parse_names_in_any_case_dotted :
    (parse "MainNet" = .ok tdcoin ∧ ∀ c ∈ "MainNet".toList, IsAscii c) ∧
    parse "tdco\u0130n" = .error (.unknownNetwork "tdco\u0130n") ∧
    parseInContext (fun _ _ => true) "TESTΣ" = .error (.unknownNetwork "TESTΣ") := by
  obtain ⟨hok, hascii, herror, hcontext, -⟩ := parse_names_in_any_case
  have hrefused : ∀ text : String, ∀ c ∈ text.toList, ¬ IsAscii c →
      parse text = .error (.unknownNetwork text) := by
    intro text c hc hforeign
    cases h : parse text with
    | ok network => exact absurd (hascii text network h c hc) hforeign
    | error fault => rw [((herror text fault).mp h).1]
  have hread : parse "MainNet" = .ok tdcoin :=
    (hok _ _).mpr ⟨"mainnet", by simp [names], String.toList_inj.mp (by simp)⟩
  refine ⟨⟨hread, hascii _ _ hread⟩, ?_, ?_⟩
  · exact hrefused _ '\u0130' (by simp) (by decide)
  · rw [hcontext]
    exact hrefused _ 'Σ' (by simp) (by decide)

end CoinKeys.Network
