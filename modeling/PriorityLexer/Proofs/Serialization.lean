import PriorityLexer.Proofs.Json.Printing
import PriorityLexer.Token

/-!
# Serialization — nothing of a token is lost in its text

The text of a token is an object with one entry for each of its parts.  Reading it as JSON gives
back the kind, the image and the offsets, as long as the offsets are numbers of 64 bits.

* `ScalarKind` — kinds that are written as one value without parts;
* `Token.InRange` — tokens whose offsets are numbers of 64 bits;
* `Token.WrittenAs` — the keys of a text and the values that are read from it;
* `Token.writtenAs`, `Token.eq_of_text` — the text of a token, and tokens with the same text;
* `Token.text_lossless` — both of them for the two sorts of kinds.
-/

namespace PriorityLexer

open Json

/-! ## Kinds -/

class ScalarKind (κ : Type) [KindFormat κ] : Prop where
  exact : ∀ k : κ, (KindFormat.toValue k).Exact
  depth_eq : ∀ k : κ, (KindFormat.toValue k).depth = 0
  injective : Function.Injective (KindFormat.toValue : κ → Value)

instance : ScalarKind String where
  exact _ := trivial
  depth_eq _ := rfl
  injective k k' h := by
    cases h
    rfl

instance : ScalarKind UInt32 where
  exact k := Nat.le_trans k.toNat_lt.le (by decide)
  depth_eq _ := rfl
  injective k k' h := by
    have hnat : k.toNat = k'.toNat := by
      injection h with hnumber
      injection hnumber
    exact UInt32.toNat_inj.1 hnat

/-! ## Tokens -/

namespace Token

variable {κ : Type}

structure InRange (t : Token κ) : Prop where
  startOffset_lt : t.startOffset < UInt64.size
  nextOffset_lt : t.nextOffset < UInt64.size

variable [KindFormat κ]

/-- The text is one object with four keys, each of them once.  The values that are read under them
are `kind` and the other parts of the token. -/
structure WrittenAs (t : Token κ) (kind : Value) : Prop where
  object : ∃ inner entries, t.text = .ofList (Form.object inner entries).text ∧
    entries.toList.map (fun e => e.1.value) = ["type", "image", "startOffset", "nextOffset"]
  ofText? : Value.ofText? t.text.toList =
    .ok (.object [("type", kind), ("image", .string t.image),
      ("startOffset", .number (.natural t.startOffset)),
      ("nextOffset", .number (.natural t.nextOffset))])

variable [ScalarKind κ]

theorem exact_toValue {t : Token κ} (h : t.InRange) : t.toValue.Exact := by
  have hstart : t.startOffset ≤ Numeral.greatest := Nat.le_sub_one_of_lt h.startOffset_lt
  have hnext : t.nextOffset ≤ Numeral.greatest := Nat.le_sub_one_of_lt h.nextOffset_lt
  exact ⟨ScalarKind.exact t.kind, trivial, hstart, hnext, trivial⟩

theorem depth_toValue (t : Token κ) : t.toValue.depth = 1 := by
  have hkind := ScalarKind.depth_eq t.kind
  simp [toValue, Value.depth, Value.depthEntries, hkind]

theorem writtenAs {t : Token κ} (h : t.InRange) : t.WrittenAs (KindFormat.toValue t.kind) := by
  have hdepth : t.toValue.depth ≤ nestLimit := by
    rw [depth_toValue]
    decide
  refine ⟨?_, ?_⟩
  · rcases Value.exists_form (exact_toValue h) with ⟨f, htext, hvalue, -⟩
    rcases Form.value?_eq_object hvalue with ⟨inner, entries, rfl, hvalues⟩
    refine ⟨inner, entries, ?_, ?_⟩
    · rw [htext]
      rfl
    · rw [Entries.map_key_toList hvalues]
      rfl
  · rw [text, Value.text, String.toList_ofList]
    exact Value.ofText?_write (exact_toValue h) hdepth

theorem eq_of_text {t t' : Token κ} (h : t.InRange) (h' : t'.InRange) (htext : t.text = t'.text) :
    t = t' := by
  have hread := (writtenAs h).ofText?
  rw [htext, (writtenAs h').ofText?] at hread
  -- The same value has been read from both texts, so the parts are the same one by one.
  simp only [Except.ok.injEq, Value.object.injEq, List.cons.injEq, Prod.mk.injEq,
    Value.string.injEq, Value.number.injEq, Number.natural.injEq, true_and, and_true] at hread
  rcases hread with ⟨hkind, himage, hstart, hnext⟩
  rcases t with ⟨kind, image, startOffset, nextOffset⟩
  cases ScalarKind.injective hkind
  cases himage
  cases hstart
  cases hnext
  rfl

/-- The text of a token is an object with its kind, its image and its offsets.  They are read back
as they are, so that tokens with the same text are the same. -/
theorem text_lossless :
    (∀ t : Token String, t.InRange → t.WrittenAs (.string t.kind)) ∧
    (∀ t : Token UInt32, t.InRange → t.WrittenAs (.number (.natural t.kind.toNat))) ∧
    (∀ t t' : Token String, t.InRange → t'.InRange → t.text = t'.text → t = t') ∧
    ∀ t t' : Token UInt32, t.InRange → t'.InRange → t.text = t'.text → t = t' := by
  refine ⟨?_, ?_, ?_, ?_⟩
  · intro t h
    exact writtenAs h
  · intro t h
    exact writtenAs h
  · intro t t' h h' htext
    exact eq_of_text h h' htext
  · intro t t' h h' htext
    exact eq_of_text h h' htext

/-- The image holds what has to be escaped and a character of four bytes.  The offsets lie where
doubles no longer tell whole numbers apart. -/
theorem text_lossless_far :
    (⟨"\"k\\", "\x00\n\x1f😀", 9007199254740993, 18446744073709551615⟩ : Token String).WrittenAs
      (.string "\"k\\") ∧
    (⟨4294967295, "/", 0, 1⟩ : Token UInt32).WrittenAs (.number (.natural 4294967295)) ∧
    (⟨"k", "", 9007199254740993, 0⟩ : Token String).text ≠
      (⟨"k", "", 9007199254740992, 0⟩ : Token String).text ∧
    (⟨1, "", 9007199254740993, 0⟩ : Token UInt32).text ≠
      (⟨1, "", 9007199254740992, 0⟩ : Token UInt32).text := by
  refine ⟨?_, ?_, ?_, ?_⟩
  · apply text_lossless.1
    exact ⟨by decide, by decide⟩
  · apply text_lossless.2.1
    exact ⟨by decide, by decide⟩
  · intro htext
    have hsame := text_lossless.2.2.1 _ _ ⟨by decide, by decide⟩ ⟨by decide, by decide⟩ htext
    cases hsame
  · intro htext
    have hsame := text_lossless.2.2.2 _ _ ⟨by decide, by decide⟩ ⟨by decide, by decide⟩ htext
    cases hsame

example : (⟨"null", "null", 2, 6⟩ : Token String).text =
    "\x7b\"type\":\"null\",\"image\":\"null\",\"startOffset\":2,\"nextOffset\":6\x7d" := rfl

end Token

end PriorityLexer
