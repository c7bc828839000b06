import Mathlib.Data.List.TakeWhile
import OpenVPNAdapter.Library.Delimited
import OpenVPNAdapter.MbedTLS.PemRead
import OpenVPNAdapter.MbedTLS.X509Crt

namespace OpenVPNAdapter.MbedTLS

open Library.Substring Library.Delimited

def certificateMarks : Marks UInt8 where
  opening := beginCertificate
  closing := endCertificate
  opening_ne := by decide

/-- The text ends within a block: a header has no footer behind it. -/
def CutShort (text : Bytes) : Prop := firstIndex beginCertificate (remainder certificateMarks text) ≠ none

instance (text : Bytes) : Decidable (CutShort text) := inferInstanceAs (Decidable (¬ _))

/-- The certificate blocks in a text, wherever they stand; `none` is one that has no end. -/
def blocks (text : Bytes) : List (Option Bytes) :=
  (pieces certificateMarks text).map (fun p => some p.body) ++ if CutShort text then [none] else []

/-- Where the line end behind a header is looked for. -/
def lineStart (text : Bytes) : Nat := skip text 0x0D (skip text 0x20 0)

/-- What the reader asks of a block besides its two boundaries: no zero byte up to its end, no
footer up to the end of its header, and a line end behind the header. -/
structure Plain (p : Piece UInt8) : Prop where
  lead_clean : 0 ∉ p.lead
  body_clean : 0 ∉ p.body
  no_footer : firstIndex endCertificate (p.lead ++ beginCertificate) = none
  line_end : p.body[lineStart p.body]? = some newline

instance (p : Piece UInt8) : Decidable (Plain p) :=
  decidable_of_iff (0 ∉ p.lead ∧ 0 ∉ p.body ∧ firstIndex endCertificate (p.lead ++ beginCertificate) = none ∧
    p.body[lineStart p.body]? = some newline) ⟨fun ⟨h1, h2, h3, h4⟩ => ⟨h1, h2, h3, h4⟩,
      fun ⟨h1, h2, h3, h4⟩ => ⟨h1, h2, h3, h4⟩⟩

/-- The blocks up to the first that is not plain. -/
def plainBlocks (text : Bytes) : List Bytes := ((pieces certificateMarks text).takeWhile (Plain ·)).map Piece.body

/-! Where a line may end. -/

def lineEnds : List UInt8 := [0x20, 0x0D, newline]

theorem skip_append_right (pre text : Bytes) (c : UInt8) (s : Nat) :
    skip (pre ++ text) c (pre.length + s) = pre.length + skip text c s := by
  simp only [skip, List.getElem?_append_right (Nat.le_add_right _ _), Nat.add_sub_cancel_left]
  split <;> omega

theorem skip_append_left {text post : Bytes} {c : UInt8} {s : Nat} (hs : s ≤ text.length)
    (hpost : post.head? ≠ some c) :
    skip (text ++ post) c s = skip text c s := by
  rcases Nat.lt_or_eq_of_le hs with hlt | rfl
  · rw [skip, skip, List.getElem?_append_left hlt]
  · rw [skip, skip, List.getElem?_append_right le_rfl, Nat.sub_self, ← List.head?_eq_getElem?, if_neg hpost,
      if_neg (by simp)]

theorem skip_le_length {text : Bytes} {c : UInt8} {s : Nat} (hs : s ≤ text.length) :
    skip text c s ≤ text.length := by
  rw [skip]
  split
  · rename_i hc
    exact (List.getElem?_eq_some_iff.mp hc).1
  · exact hs

theorem lineStart_append {text post : Bytes} (hpost : post.head? = some 0x2D) :
    lineStart (text ++ post) = lineStart text := by
  have hne (c : UInt8) (hc : 0x2D ≠ c) : post.head? ≠ some c := fun h => hc (Option.some.inj (hpost.symm.trans h))
  rw [lineStart, skip_append_left (Nat.zero_le _) (hne _ (by decide)),
    skip_append_left (skip_le_length (Nat.zero_le _)) (hne _ (by decide)), lineStart]

theorem getElem?_lineStart_append {text post : Bytes} (hpost : post.head? = some 0x2D) :
    (text ++ post)[lineStart (text ++ post)]? = some newline ↔ text[lineStart text]? = some newline := by
  have hle : lineStart text ≤ text.length := skip_le_length (skip_le_length (Nat.zero_le _))
  rw [lineStart_append hpost]
  rcases Nat.lt_or_eq_of_le hle with hlt | heq
  · rw [List.getElem?_append_left hlt]
  · have hdash : newline ≠ 0x2D := by decide
    rw [heq, List.getElem?_append_right le_rfl, Nat.sub_self, ← List.head?_eq_getElem?, hpost]
    simp [hdash.symm]

/-- A text with a line end at its start begins with one of three characters. -/
theorem head_of_lineStart {text : Bytes} (h : text[lineStart text]? = some newline) :
    ∃ c rest, text = c :: rest ∧ c ∈ lineEnds := by
  cases text with
  | nil => cases h
  | cons c rest =>
      refine ⟨c, rest, rfl, ?_⟩
      by_contra hc
      simp only [lineEnds, List.mem_cons, List.not_mem_nil, or_false, not_or] at hc
      obtain ⟨hspace, hreturn, hfeed⟩ := hc
      have h1 : skip (c :: rest) 0x20 0 = 0 := if_neg fun hp => hspace (Option.some.inj hp)
      have h2 : skip (c :: rest) 0x0D 0 = 0 := if_neg fun hp => hreturn (Option.some.inj hp)
      rw [lineStart, h1, h2] at h
      exact hfeed (Option.some.inj h)

/-! The boundaries of a plain block are the ones that are found. -/

theorem marks_apart : ∀ c ∈ lineEnds, ∀ k < beginCertificate.length,
    Apart (beginCertificate.drop k ++ [c]) endCertificate := by
  intro c hc
  simp only [lineEnds, List.mem_cons, List.not_mem_nil, or_false] at hc
  rcases hc with rfl | rfl | rfl
  · decide
  · decide
  · decide

/-- No footer starts within a header that a line end follows. -/
theorem not_footer_in_header {c : UInt8} (hc : c ∈ lineEnds) {k : Nat} (hk : k < beginCertificate.length)
    (rest : Bytes) :
    ¬ endCertificate <+: beginCertificate.drop k ++ c :: rest := by
  have h := (marks_apart c hc k hk).not_prefix_append rest
  rwa [List.append_assoc] at h

theorem firstIndex_footer_of_plain {p : Piece UInt8} (hfirst : p.First certificateMarks) (hp : Plain p) :
    firstIndex endCertificate (p.lead ++ (beginCertificate ++ (p.body ++ endCertificate))) =
      some (p.lead.length + (beginCertificate.length + p.body.length)) := by
  obtain ⟨c, rest, hbody, hc⟩ := head_of_lineStart hp.line_end
  have hclosing : firstIndex endCertificate (p.body ++ endCertificate) = some p.body.length := hfirst.closing
  rw [firstIndex_append, firstIndex_append, hclosing]
  · simp only [Option.map_some]
    congr 1
    omega
  · intro k hk
    rw [hbody]
    exact not_footer_in_header hc hk _
  · intro k hk
    have hnone := firstIndex_eq_none_iff.mp hp.no_footer k
    rw [← List.drop_append_of_le_length (by omega), ← List.append_assoc,
      prefix_drop_append_iff (by rw [List.length_append]; exact Nat.add_le_add (by omega) (by decide))]
    exact hnone

theorem pemStart_of_plain {p : Piece UInt8} (hfirst : p.First certificateMarks) (hp : Plain p) (rest : Bytes) :
    pemStart beginCertificate endCertificate (p.whole certificateMarks ++ rest) =
      some (p.lead.length + beginCertificate.length + (lineStart p.body + 1),
        p.lead.length + beginCertificate.length + p.body.length) := by
  have htext : p.whole certificateMarks ++ rest =
      p.lead ++ (beginCertificate ++ (p.body ++ (endCertificate ++ rest))) := by
    simp only [Piece.whole, certificateMarks, List.append_assoc]
  have hheader : firstIndex beginCertificate (p.whole certificateMarks ++ rest) = some p.lead.length :=
    firstIndex_eq_some_iff_append.mpr ⟨p.lead, _, htext, rfl, hfirst.opening⟩
  have hfooter : firstIndex endCertificate (p.whole certificateMarks ++ rest) =
      some (p.lead.length + beginCertificate.length + p.body.length) := by
    refine firstIndex_eq_some_iff_append.mpr ⟨p.lead ++ (beginCertificate ++ p.body), rest, ?_, ?_, ?_⟩
    · simp only [htext, List.append_assoc]
    · simp only [List.length_append, Nat.add_assoc]
    · rw [List.append_assoc, List.append_assoc, firstIndex_footer_of_plain hfirst hp, Nat.add_assoc]
  have hstart : skip (p.whole certificateMarks ++ rest) 0x0D
      (skip (p.whole certificateMarks ++ rest) 0x20 (p.lead.length + beginCertificate.length)) =
        p.lead.length + beginCertificate.length + lineStart p.body := by
    rw [htext, ← List.append_assoc, ← List.length_append, ← Nat.add_zero (p.lead ++ beginCertificate).length,
      skip_append_right, skip_append_right, Nat.add_zero]
    exact congrArg _ (lineStart_append (by rfl))
  have hline : (p.whole certificateMarks ++ rest)[p.lead.length + beginCertificate.length + lineStart p.body]? =
      some newline := by
    have hsame : lineStart (p.body ++ (endCertificate ++ rest)) = lineStart p.body := lineStart_append rfl
    rw [htext, ← List.append_assoc, ← List.length_append, List.getElem?_append_right (Nat.le_add_right _ _),
      Nat.add_sub_cancel_left, ← hsame]
    exact (getElem?_lineStart_append rfl).mpr hp.line_end
  simp only [pemStart, hheader, hfooter, hstart, hline]
  have hpos : beginCertificate.length = 27 := by decide
  rw [if_neg (by simp only [ne_eq, not_true_eq_false, or_false]; omega)]
  rfl

theorem drop_header (lead rest : Bytes) (j : Nat) :
    (lead ++ (beginCertificate ++ rest)).drop (lead.length + beginCertificate.length + j) = rest.drop j := by
  rw [Nat.add_assoc, List.drop_length_add_append, List.drop_length_add_append]

/-- A footer that starts behind the start of the header starts behind its end. -/
theorem header_le_footer {lead rest : Bytes} {c : UInt8} {k : Nat} (hc : c ∈ lineEnds) (hlt : lead.length < k)
    (hat : endCertificate <+: (lead ++ (beginCertificate ++ c :: rest)).drop k) :
    lead.length + beginCertificate.length ≤ k := by
  by_contra hle
  obtain ⟨i, rfl⟩ := Nat.exists_eq_add_of_lt hlt
  have hi : i + 1 < beginCertificate.length := by omega
  rw [Nat.add_assoc, List.drop_length_add_append, List.drop_append_of_le_length (by omega)] at hat
  exact not_footer_in_header hc hi rest hat

/-- The other way round: what is found in a text without zero bytes is a plain block. -/
theorem plain_of_pemStart {text : Bytes} (hclean : 0 ∉ text) {bounds : Nat × Nat}
    (h : pemStart beginCertificate endCertificate text = some bounds) :
    ∃ p rest, text = p.whole certificateMarks ++ rest ∧ p.First certificateMarks ∧ Plain p := by
  rw [pemStart] at h
  split at h
  · rename_i k1 k hheader hfooter
    simp only at h
    split at h
    · cases h
    · rename_i hfound
      obtain ⟨hlt, hline⟩ := not_or.mp hfound
      obtain ⟨lead, rest, rfl, rfl, hopening⟩ := firstIndex_eq_some_iff_append.mp hheader
      obtain ⟨hat, hbefore⟩ := firstIndex_eq_some_iff.mp hfooter
      rw [Decidable.not_not, ← List.append_assoc, ← List.length_append,
        ← Nat.add_zero (lead ++ beginCertificate).length,
        skip_append_right, skip_append_right, List.getElem?_append_right (Nat.le_add_right _ _),
        Nat.add_sub_cancel_left] at hline
      obtain ⟨c, rest', rfl, hc⟩ := head_of_lineStart hline
      obtain ⟨n, rfl⟩ := Nat.exists_eq_add_of_le (header_le_footer hc (Nat.lt_of_not_le hlt) hat)
      rw [drop_header] at hat
      -- the footer is the first one behind the header as well
      have hclosing : firstIndex endCertificate (c :: rest') = some n := by
        refine firstIndex_eq_some_iff.mpr ⟨hat, fun j hj hp => ?_⟩
        exact hbefore (lead.length + beginCertificate.length + j) (by omega) (drop_header lead _ j ▸ hp)
      have hnone : firstIndex endCertificate (lead ++ beginCertificate) = none := by
        refine firstIndex_eq_none_iff.mpr fun j hp => ?_
        have hlength := hp.length_le
        have hfooterLength : endCertificate.length = 25 := by decide
        have hheaderLength : beginCertificate.length = 27 := by decide
        rw [List.length_drop, List.length_append] at hlength
        refine hbefore j (by omega) ?_
        rw [← List.append_assoc, prefix_drop_append_iff (by rw [List.length_append]; omega)]
        exact hp
      obtain ⟨body, rest, hrest, rfl, hbody⟩ := firstIndex_eq_some_iff_append.mp hclosing
      rw [hrest] at hline hclean ⊢
      simp only [List.mem_append, not_or] at hclean
      refine ⟨⟨lead, body⟩, rest, ?_, ⟨hopening, hbody⟩, ⟨hclean.1, hclean.2.2.1, hnone, ?_⟩⟩
      · simp only [Piece.whole, certificateMarks, List.append_assoc]
      · exact (getElem?_lineStart_append rfl).mp hline
  · cases h

/-! Line ends behind a footer make no difference. -/

theorem plain_after {xs : Bytes} (h : ∀ x ∈ xs, x ∈ lineEnds) (p : Piece UInt8) :
    Plain (p.after xs) ↔ Plain p := by
  have hzero : 0 ∉ xs := fun hx => absurd (h 0 hx) (by decide)
  have hdash : 0x2D ∉ xs := fun hx => absurd (h 0x2D hx) (by decide)
  have hfooter : firstIndex endCertificate (xs ++ (p.lead ++ beginCertificate)) =
      (firstIndex endCertificate (p.lead ++ beginCertificate)).map (· + xs.length) :=
    firstIndex_append_of_notMem _ _ hdash
  constructor
  · rintro ⟨hlead, hbody, hnone, hline⟩
    rw [Piece.after, List.append_assoc, hfooter, Option.map_eq_none_iff] at hnone
    exact ⟨fun hp => hlead (List.mem_append_right xs hp), hbody, hnone, hline⟩
  · rintro ⟨hlead, hbody, hnone, hline⟩
    refine ⟨fun hp => (List.mem_append.mp hp).elim hzero hlead, hbody, ?_, hline⟩
    rw [Piece.after, List.append_assoc, hfooter, hnone]
    rfl

theorem plainBlocks_append {xs : Bytes} (h : ∀ x ∈ xs, x ∈ lineEnds) (text : Bytes) :
    plainBlocks (xs ++ text) = plainBlocks text := by
  have hdash : 0x2D ∉ xs := fun hx => absurd (h 0x2D hx) (by decide)
  rw [plainBlocks, plainBlocks, pieces_append_of_notMem (x := 0x2D) rfl hdash]
  cases pieces certificateMarks text with
  | nil => rfl
  | cons p ps =>
      simp only [List.modifyHead_cons, List.takeWhile_cons, plain_after h]
      split
      · rfl
      · rfl

theorem skip_eq (pre text : Bytes) (c : UInt8) :
    ∃ xs rest, text = xs ++ rest ∧ skip (pre ++ text) c pre.length = (pre ++ xs).length ∧ ∀ x ∈ xs, x = c := by
  have hskip := skip_append_right pre text c 0
  rw [Nat.add_zero] at hskip
  rw [hskip, skip]
  split
  · rename_i hc
    obtain ⟨rest, rfl⟩ : ∃ rest, text = c :: rest := by
      cases text with
      | nil => cases hc
      | cons d rest => exact ⟨rest, by rw [Option.some.inj hc]⟩
    exact ⟨[c], rest, rfl, by simp, by simp⟩
  · exact ⟨[], text, rfl, by simp, fun _ h => (by cases h)⟩

/-- What is used behind a footer is made of line ends. -/
theorem pemEnd_eq (pre text : Bytes) : ∃ xs rest, text = xs ++ rest ∧
    pemEnd (pre ++ text) pre.length = (pre ++ xs).length ∧ ∀ x ∈ xs, x ∈ lineEnds := by
  obtain ⟨spaces, text1, rfl, h1, hspaces⟩ := skip_eq pre text 0x20
  obtain ⟨returns, text2, rfl, h2, hreturns⟩ := skip_eq (pre ++ spaces) text1 0x0D
  obtain ⟨feeds, rest, rfl, h3, hfeeds⟩ := skip_eq (pre ++ spaces ++ returns) text2 newline
  refine ⟨spaces ++ (returns ++ feeds), rest, by simp only [List.append_assoc], ?_, fun x hx => ?_⟩
  · simp only [List.append_assoc] at h1 h2 h3 ⊢
    rw [pemEnd, h1, h2, h3]
  · rcases List.mem_append.mp hx with hx | hx
    · exact hspaces x hx ▸ by decide
    rcases List.mem_append.mp hx with hx | hx
    · exact hreturns x hx ▸ by decide
    · exact hfeeds x hx ▸ by decide

/-! The body alone decides what is read. -/

section Read

variable (decrypt : PemDecrypt)

/-- A block read on its own. -/
def readBlock (body : Bytes) : Except Stop Bytes :=
  (readCertificate decrypt (beginCertificate ++ (body ++ endCertificate) ++ [0])).2

/-- What the characters between the boundaries decode to, unless they are encrypted. -/
def Decodes (content der : Bytes) : Prop := ¬ procType <+: content ∧ pemDecode content 0 content.length = .ok der

variable {decrypt}

theorem atWord_iff {text word : Bytes} {s1 s2 : Nat} (hword : word ≠ []) :
    atWord text s1 s2 word ↔ word <+: (text.drop s1).take (s2 - s1) := by
  have hpos := List.length_pos_iff.mpr hword
  rw [atWord, List.prefix_take_iff, and_comm]
  exact and_congr_right fun _ => ⟨fun h => by omega, fun h => by omega⟩

theorem pemDecode_eq {text : Bytes} {s1 s2 : Nat} (hs2 : s2 ≤ text.length) :
    pemDecode text s1 s2 =
      pemDecode ((text.drop s1).take (s2 - s1)) 0 ((text.drop s1).take (s2 - s1)).length := by
  have hlength : ((text.drop s1).take (s2 - s1)).length = s2 - s1 := by
    rw [List.length_take, List.length_drop]
    omega
  rw [hlength, pemDecode, pemDecode, List.drop_zero, Nat.sub_zero, List.take_take, Nat.min_self]
  by_cases hle : s1 ≥ s2
  · rw [if_pos hle, if_pos (by omega)]
  · rw [if_neg hle, if_neg (by omega)]

theorem pemBody_eq_ok {text der : Bytes} {s1 s2 : Nat} (hs2 : s2 ≤ text.length) :
    pemBody decrypt none text s1 s2 = .ok der ↔ Decodes ((text.drop s1).take (s2 - s1)) der := by
  rw [Decodes, ← pemDecode_eq hs2, ← atWord_iff (by decide)]
  constructor
  · intro h
    obtain ⟨⟨enc, s⟩, hencryption, hafterEncryption⟩ := bind_eq_ok.mp h
    obtain ⟨buf, hdecode, hafterDecode⟩ := bind_eq_ok.mp hafterEncryption
    cases enc with
    | some enc => cases hafterDecode
    | none =>
        obtain rfl := Except.ok.inj hafterDecode
        obtain ⟨hword, rfl⟩ := pemEncryption_eq_none.mp hencryption
        exact ⟨hword, hdecode⟩
  · rintro ⟨hword, hdecode⟩
    exact bind_eq_ok.mpr ⟨_, pemEncryption_eq_none.mpr ⟨hword, rfl⟩, bind_eq_ok.mpr ⟨der, hdecode, rfl⟩⟩

variable (decrypt)

/-- The content of a plain block, in any text that it begins. -/
theorem pemBody_of_plain {p : Piece UInt8} (hp : Plain p) (rest der : Bytes) :
    pemBody decrypt none (p.whole certificateMarks ++ rest)
      (p.lead.length + beginCertificate.length + (lineStart p.body + 1))
      (p.lead.length + beginCertificate.length + p.body.length) = .ok der ↔
      Decodes (p.body.drop (lineStart p.body + 1)) der := by
  have htext : p.whole certificateMarks ++ rest =
      p.lead ++ (beginCertificate ++ (p.body ++ (endCertificate ++ rest))) := by
    simp only [Piece.whole, certificateMarks, List.append_assoc]
  have hlt := (List.getElem?_eq_some_iff.mp hp.line_end).1
  have hlength : p.lead.length + beginCertificate.length + p.body.length ≤
      (p.whole certificateMarks ++ rest).length := by
    simp only [htext, List.length_append]
    omega
  rw [pemBody_eq_ok hlength, htext, drop_header, Nat.add_sub_add_left, List.drop_append_of_le_length hlt,
    List.take_append_of_le_length (by rw [List.length_drop]), List.take_of_length_le (by rw [List.length_drop])]

theorem cString_terminated (data : Bytes) : cString (data ++ [0]) = some (data.takeWhile (· ≠ 0)) := by
  rw [cString, if_pos (by simp), List.takeWhile_append]
  split
  · rename_i hwhole
    have hdata := (List.takeWhile_prefix (p := (· ≠ 0)) (l := data)).eq_of_length hwhole
    rw [hdata]
    simp
  · rfl

theorem zero_notMem_whole {p : Piece UInt8} (hp : Plain p) : 0 ∉ p.whole certificateMarks := by
  have hheader : 0 ∉ beginCertificate := by decide
  have hfooter : 0 ∉ endCertificate := by decide
  simp only [Piece.whole, certificateMarks, List.mem_append, not_or]
  exact ⟨hp.lead_clean, hheader, hp.body_clean, hfooter⟩

theorem readCertificate_of_plain {p : Piece UInt8} (hfirst : p.First certificateMarks) (hp : Plain p)
    (data : Bytes) :
    ∃ text, readCertificate decrypt (p.whole certificateMarks ++ data ++ [0]) =
        (some (pemEnd (p.whole certificateMarks ++ text) (p.whole certificateMarks).length),
          (pemBody decrypt none (p.whole certificateMarks ++ text)
            (p.lead.length + beginCertificate.length + (lineStart p.body + 1))
            (p.lead.length + beginCertificate.length + p.body.length)).mapError .failed) ∧
      text <+: data := by
  refine ⟨data.takeWhile (· ≠ 0), ?_, List.takeWhile_prefix _⟩
  have htext : cString (p.whole certificateMarks ++ data ++ [0]) =
      some (p.whole certificateMarks ++ data.takeWhile (· ≠ 0)) := by
    rw [cString_terminated, List.takeWhile_append_of_pos]
    exact fun b hb => decide_eq_true fun hz => zero_notMem_whole hp (hz ▸ hb)
  have hlength : (p.whole certificateMarks).length =
      p.lead.length + beginCertificate.length + p.body.length + endCertificate.length := by
    simp only [Piece.whole, certificateMarks, List.length_append]
    omega
  rw [readCertificate, pemReadBuffer_of_start htext (pemStart_of_plain hfirst hp _), hlength]

theorem readBlock_eq_ok {p : Piece UInt8} (hfirst : p.First certificateMarks) (hp : Plain p) {der : Bytes} :
    readBlock decrypt p.body = .ok der ↔ Decodes (p.body.drop (lineStart p.body + 1)) der := by
  have hopening : firstIndex beginCertificate ([] ++ beginCertificate) = some 0 :=
    firstIndex_of_prefix (List.prefix_refl _)
  have hfirst' : (⟨[], p.body⟩ : Piece UInt8).First certificateMarks := ⟨hopening, hfirst.closing⟩
  have hnone : firstIndex endCertificate ([] ++ beginCertificate) = none := by decide
  have hp' : Plain ⟨[], p.body⟩ := ⟨List.not_mem_nil, hp.body_clean, hnone, hp.line_end⟩
  obtain ⟨text, hread, htext⟩ := readCertificate_of_plain decrypt hfirst' hp' []
  obtain rfl := List.prefix_nil.mp htext
  have hwhole : (⟨[], p.body⟩ : Piece UInt8).whole certificateMarks = beginCertificate ++
      (p.body ++ endCertificate) := rfl
  have hbody := pemBody_of_plain decrypt hp' [] der
  rw [List.append_nil, hwhole] at hread hbody
  rw [readBlock, hread, mapError_eq_ok]
  exact hbody

theorem readCertificate_of_not_plain {data : Bytes} (h : plainBlocks data = []) :
    readCertificate decrypt (data ++ [0]) = (none, .error (.failed .pemNoHeaderFooterPresent)) := by
  refine pemReadBuffer_of_no_start (cString_terminated data) ?_
  by_contra hstart
  obtain ⟨bounds, hbounds⟩ := Option.ne_none_iff_exists'.mp hstart
  have hclean : 0 ∉ data.takeWhile (· ≠ 0) := fun hz => absurd (List.mem_takeWhile_imp hz) (by simp)
  obtain ⟨p, rest, htext, hfirst, hp⟩ := plain_of_pemStart hclean hbounds
  have hdata : data = p.whole certificateMarks ++ (rest ++ data.dropWhile (· ≠ 0)) := by
    rw [← List.append_assoc, ← htext, List.takeWhile_append_dropWhile]
  rw [plainBlocks, hdata, pieces_whole_append hfirst, List.takeWhile_cons, if_pos (decide_eq_true hp)] at h
  cases h

end Read

section Loop

variable {δ : Type} (parseDetails : ParseDetails δ) (decrypt : PemDecrypt)

/-- The certificate of a block, if it has one. -/
def parseBlock (body : Bytes) : Option (X509Crt δ) :=
  match readBlock decrypt body with
  | .ok der => (x509CrtParseDerCore parseDetails der).toOption
  | .error _ => none

/-- The memory for the certificate of a block is refused. -/
def AllocFails (body : Bytes) : Prop :=
  ∃ der, readBlock decrypt body = .ok der ∧ x509CrtParseDerCore parseDetails der = .error .x509AllocFailed

variable {parseDetails decrypt}

theorem plainBlocks_eq_cons {data body : Bytes} {bodies : List Bytes} (h : plainBlocks data = body :: bodies) :
    ∃ p rest, data = p.whole certificateMarks ++ rest ∧ p.First certificateMarks ∧ Plain p ∧ p.body = body ∧
      plainBlocks rest = bodies := by
  rw [plainBlocks] at h
  cases hpieces : pieces certificateMarks data with
  | nil =>
      rw [hpieces] at h
      cases h
  | cons p ps =>
      obtain ⟨rest, rfl, hfirst, rfl⟩ := pieces_eq_cons hpieces
      rw [hpieces, List.takeWhile_cons] at h
      split at h
      · rename_i hp
        obtain ⟨hbody, hbodies⟩ := List.cons.inj h
        exact ⟨p, rest, rfl, hfirst, of_decide_eq_true hp, hbody, hbodies⟩
      · cases h

variable (decrypt) in
/-- One round of the loop reads the next plain block, and leaves the others. -/
theorem readCertificate_of_blocks {data body : Bytes} {bodies : List Bytes}
    (h : plainBlocks data = body :: bodies) :
    ∃ n rest, (data ++ [0]).drop n = rest ++ [0] ∧ plainBlocks rest = bodies ∧
      ((∃ der, readBlock decrypt body = .ok der ∧ readCertificate decrypt (data ++ [0]) = (some n, .ok der)) ∨
        (∀ der, readBlock decrypt body ≠ .ok der) ∧ ∃ failure, BodyFailure failure ∧
          readCertificate decrypt (data ++ [0]) = (some n, .error (.failed failure))) := by
  obtain ⟨p, data, rfl, hfirst, hp, rfl, rfl⟩ := plainBlocks_eq_cons h
  obtain ⟨text, hread, unseen, rfl⟩ := readCertificate_of_plain decrypt hfirst hp data
  obtain ⟨xs, text, rfl, hend, hxs⟩ := pemEnd_eq (p.whole certificateMarks) text
  rw [hend] at hread
  refine ⟨(p.whole certificateMarks ++ xs).length, text ++ unseen, ?_, ?_, ?_⟩
  · have hdata : p.whole certificateMarks ++ (xs ++ text ++ unseen) ++ [0] =
        (p.whole certificateMarks ++ xs) ++ (text ++ unseen ++ [0]) := by simp only [List.append_assoc]
    rw [hdata, List.drop_left]
  · rw [List.append_assoc, plainBlocks_append hxs]
  · have hbody (der : Bytes) := (pemBody_of_plain decrypt hp (xs ++ text) der).trans
      (readBlock_eq_ok decrypt hfirst hp).symm
    cases hresult : pemBody decrypt none (p.whole certificateMarks ++ (xs ++ text))
        (p.lead.length + beginCertificate.length + (lineStart p.body + 1))
        (p.lead.length + beginCertificate.length + p.body.length) with
    | ok der =>
        rw [hresult] at hread
        exact .inl ⟨der, (hbody der).mp hresult, hread⟩
    | error failure =>
        rw [hresult] at hread
        refine .inr ⟨fun der hder => ?_, failure, bodyFailure_of_body hresult, hread⟩
        have hok := (hbody der).mpr hder
        rw [hresult] at hok
        cases hok

/-! One round of the loop. -/

section Round

variable {st : ParseState δ} {buf : Bytes} {n : Nat}

theorem loop_end (hread : readCertificate decrypt buf = (none, .error (.failed .pemNoHeaderFooterPresent))) :
    x509CrtParseLoop parseDetails decrypt st buf = .ok st := by
  have hne : Failure.pemNoHeaderFooterPresent ≠ .pemBadInputData := by decide
  rw [x509CrtParseLoop, hread]
  simp only [if_neg hne, if_true, ite_self]

theorem loop_failed {failure : Failure} (hlen : 1 < buf.length) (hfailure : BodyFailure failure)
    (hread : readCertificate decrypt buf = (some n, .error (.failed failure))) :
    x509CrtParseLoop parseDetails decrypt st buf =
      x509CrtParseLoop parseDetails decrypt (st.fail failure) (buf.drop n) := by
  rw [x509CrtParseLoop, if_neg (by omega), hread]
  simp only [if_neg hfailure.ne.1, if_neg hfailure.ne.2, Option.getD_some]

theorem loop_read {der : Bytes} (hlen : 1 < buf.length) (hread : readCertificate decrypt buf = (some n, .ok der)) :
    x509CrtParseLoop parseDetails decrypt st buf = match x509CrtParseDerCore parseDetails der with
      | .ok crt =>
          x509CrtParseLoop parseDetails decrypt { st with chain := st.chain ++ [crt], success := true }
            (buf.drop n)
      | .error failure =>
          if failure = .x509AllocFailed then .error (.failed failure)
          else x509CrtParseLoop parseDetails decrypt (st.fail failure) (buf.drop n) := by
  rw [x509CrtParseLoop, if_neg (by omega), hread]
  simp only [x509CrtParseDer, Option.getD_some]
  cases x509CrtParseDerCore parseDetails der with
  | ok crt => rfl
  | error failure => rfl

end Round

/-- What a run of the loop comes to, given the plain blocks that are left: it ends at a block
without memory, or each block that is parsed is in the chain. -/
def Comes (parseDetails : ParseDetails δ) (decrypt : PemDecrypt) (bodies : List Bytes) (st : ParseState δ)
    (result : Except Stop (ParseState δ)) : Prop :=
  (∃ body ∈ bodies, AllocFails parseDetails decrypt body) ∧ result = .error (.failed .x509AllocFailed) ∨
    (∀ body ∈ bodies, ¬ AllocFails parseDetails decrypt body) ∧ ∃ st', result = .ok st' ∧
      st'.chain = st.chain ++ bodies.filterMap (parseBlock parseDetails decrypt) ∧
      (st'.success = true ↔ st.success = true ∨ ∃ body ∈ bodies, parseBlock parseDetails decrypt body ≠ none)

section Comes

variable {st st1 : ParseState δ} {body : Bytes} {bodies : List Bytes} {result : Except Stop (ParseState δ)}

theorem comes_skip (hparse : parseBlock parseDetails decrypt body = none)
    (halloc : ¬ AllocFails parseDetails decrypt body)
    (hchain : st1.chain = st.chain) (hsuccess : st1.success = st.success)
    (h : Comes parseDetails decrypt bodies st1 result) :
      Comes parseDetails decrypt (body :: bodies) st result := by
  rcases h with ⟨⟨other, hother, hfails⟩, hresult⟩ | ⟨hnone, st', hresult, hchain', hsuccess'⟩
  · exact .inl ⟨⟨other, List.mem_cons_of_mem body hother, hfails⟩, hresult⟩
  · refine .inr ⟨List.forall_mem_cons.mpr ⟨halloc, hnone⟩, st', hresult, ?_, ?_⟩
    · rw [hchain', hchain, List.filterMap_cons_none hparse]
    · rw [hsuccess', hsuccess, List.exists_mem_cons_iff, hparse]
      simp only [ne_eq, not_true_eq_false, false_or]

theorem comes_parsed {crt : X509Crt δ} (hparse : parseBlock parseDetails decrypt body = some crt)
    (halloc : ¬ AllocFails parseDetails decrypt body)
    (h : Comes parseDetails decrypt bodies { st with chain := st.chain ++ [crt], success := true } result) :
    Comes parseDetails decrypt (body :: bodies) st result := by
  rcases h with ⟨⟨other, hother, hfails⟩, hresult⟩ | ⟨hnone, st', hresult, hchain', hsuccess'⟩
  · exact .inl ⟨⟨other, List.mem_cons_of_mem body hother, hfails⟩, hresult⟩
  · refine .inr ⟨List.forall_mem_cons.mpr ⟨halloc, hnone⟩, st', hresult, ?_, ?_⟩
    · rw [hchain', List.filterMap_cons_some hparse, List.append_assoc, List.singleton_append]
    · rw [hsuccess', List.exists_mem_cons_iff, hparse]
      simp only [true_or, ne_eq, reduceCtorEq, not_false_eq_true, or_true]

theorem comes_alloc (halloc : AllocFails parseDetails decrypt body) :
    Comes parseDetails decrypt (body :: bodies) st (.error (.failed .x509AllocFailed)) :=
  .inl ⟨⟨body, List.mem_cons_self, halloc⟩, rfl⟩

end Comes

theorem plainBlocks_nil : plainBlocks [] = [] := by
  rw [plainBlocks, pieces_of_none (by decide)]
  rfl

theorem not_allocFails_of_read {body der : Bytes} (hder : readBlock decrypt body = .ok der)
    (h : x509CrtParseDerCore parseDetails der ≠ .error .x509AllocFailed) :
      ¬ AllocFails parseDetails decrypt body := by
  rintro ⟨der', hder', hfails⟩
  obtain rfl := Except.ok.inj (hder.symm.trans hder')
  exact h hfails

variable (parseDetails decrypt) in
/-- The induction is on the plain blocks: each round takes one. -/
theorem loop_comes {data : Bytes} {bodies : List Bytes} (h : plainBlocks data = bodies) (st : ParseState δ) :
    Comes parseDetails decrypt bodies st (x509CrtParseLoop parseDetails decrypt st (data ++ [0])) := by
  induction bodies generalizing data st with
  | nil =>
      rw [loop_end (readCertificate_of_not_plain decrypt h)]
      exact .inr ⟨nofun, st, rfl, (List.append_nil _).symm, by simp⟩
  | cons body bodies ih =>
      have hlen : 1 < (data ++ [0]).length := by
        have hne : data ≠ [] := by
          rintro rfl
          rw [plainBlocks_nil] at h
          cases h
        have hpos := List.length_pos_iff.mpr hne
        rw [List.length_append, List.length_singleton]
        omega
      obtain ⟨n, rest, hdrop, hrest, hread⟩ := readCertificate_of_blocks decrypt h
      rcases hread with ⟨der, hder, hread⟩ | ⟨hnone, failure, hfailure, hread⟩
      · rw [loop_read hlen hread, hdrop]
        cases hcore : x509CrtParseDerCore parseDetails der with
        | ok crt =>
            have hparse : parseBlock parseDetails decrypt body = some crt := by
              rw [parseBlock, hder]
              simp only [hcore, Except.toOption]
            exact comes_parsed hparse (not_allocFails_of_read hder (hcore ▸ nofun)) (ih hrest _)
        | error failure =>
            have hparse : parseBlock parseDetails decrypt body = none := by
              rw [parseBlock, hder]
              simp only [hcore, Except.toOption]
            simp only
            split
            · rename_i hfailure
              rw [hfailure] at hcore ⊢
              exact comes_alloc ⟨der, hder, hcore⟩
            · rename_i hfailure
              refine comes_skip hparse (not_allocFails_of_read hder ?_) rfl rfl (ih hrest (st.fail failure))
              rw [hcore]
              exact fun he => hfailure (Except.error.inj he)
      · have hparse : parseBlock parseDetails decrypt body = none := by
          rw [parseBlock]
          cases hder : readBlock decrypt body with
          | ok der => exact absurd hder (hnone der)
          | error stop => rfl
        rw [loop_failed hlen hfailure hread, hdrop]
        exact comes_skip hparse (fun ⟨der, hder, _⟩ => hnone der hder) rfl rfl (ih hrest (st.fail failure))

variable (data : Bytes)

/-- The text has a certificate header before its first zero byte, and is parsed block by block. -/
def HasHeader : Prop := firstIndex beginCertificate (data.takeWhile (· ≠ 0)) ≠ none

instance : Decidable (HasHeader data) := inferInstanceAs (Decidable (¬ _))

variable {data}

theorem x509CrtParse_of_header (h : HasHeader data) : x509CrtParse parseDetails decrypt (some (data ++ [0])) =
    match x509CrtParseLoop parseDetails decrypt ⟨[], false, none, 0⟩ (data ++ [0]) with
      | .error stop => .error stop
      | .ok st =>
          if st.success then .ok (st.totalFailed, st.chain)
          else .error (.failed (st.firstError.getD .x509CertUnknownFormat)) := by
  have hlast : (data ++ [0]).getLast? = some 0 := List.getLast?_concat
  simp only [x509CrtParse, hlast, cString_terminated, if_neg h]
  rfl

theorem x509CrtParse_of_no_header (h : ¬ HasHeader data) : x509CrtParse parseDetails decrypt (some (data ++ [0])) =
    ((x509CrtParseDerCore parseDetails (data ++ [0])).map fun crt => (0, [crt])).mapError .failed := by
  have hlast : (data ++ [0]).getLast? = some 0 := List.getLast?_concat
  simp only [x509CrtParse, hlast, cString_terminated, if_pos (Decidable.not_not.mp h), x509CrtParseDer]
  cases x509CrtParseDerCore parseDetails (data ++ [0]) with
  | ok crt => rfl
  | error failure => rfl

theorem x509CrtParse_ne_fault : x509CrtParse parseDetails decrypt (some (data ++ [0])) ≠ .error .fault := by
  by_cases h : HasHeader data
  · rw [x509CrtParse_of_header h]
    rcases loop_comes parseDetails decrypt (Eq.refl (plainBlocks data)) ⟨[], false, none, 0⟩ with
      ⟨-, hloop⟩ | ⟨-, st, hloop, -⟩
    · rw [hloop]
      nofun
    · rw [hloop]
      simp only
      split
      · nofun
      · nofun
  · rw [x509CrtParse_of_no_header h]
    cases x509CrtParseDerCore parseDetails (data ++ [0]) with
    | ok crt => nofun
    | error failure => nofun

/-- Some plain block is parsed, and none is left out for want of memory; the chain is then of all
that are parsed. -/
theorem x509CrtParse_blocks (h : HasHeader data) {chain : List (X509Crt δ)} :
    (∃ n, x509CrtParse parseDetails decrypt (some (data ++ [0])) = .ok (n, chain)) ↔
      (∀ body ∈ plainBlocks data, ¬ AllocFails parseDetails decrypt body) ∧
        (∃ body ∈ plainBlocks data, parseBlock parseDetails decrypt body ≠ none) ∧
        chain = (plainBlocks data).filterMap (parseBlock parseDetails decrypt) := by
  rw [x509CrtParse_of_header h]
  rcases loop_comes parseDetails decrypt (Eq.refl (plainBlocks data)) ⟨[], false, none, 0⟩ with
    ⟨⟨body, hbody, hfails⟩, hloop⟩ | ⟨hnone, st, hloop, hchain, hsuccess⟩
  · rw [hloop]
    exact ⟨fun ⟨_, hn⟩ => (nomatch hn), fun hall => absurd hfails (hall.1 body hbody)⟩
  · simp only [Bool.false_eq_true, false_or] at hsuccess
    rw [hloop, ← hsuccess]
    simp only
    split
    · rename_i htrue
      constructor
      · rintro ⟨n, hn⟩
        obtain ⟨-, rfl⟩ := Prod.mk.inj (Except.ok.inj hn)
        exact ⟨hnone, htrue, hchain⟩
      · rintro ⟨-, -, rfl⟩
        exact ⟨st.totalFailed, by rw [hchain]; rfl⟩
    · rename_i hfalse
      exact ⟨fun ⟨_, hn⟩ => (nomatch hn), fun hall => absurd hall.2.1 hfalse⟩

end Loop

end OpenVPNAdapter.MbedTLS
