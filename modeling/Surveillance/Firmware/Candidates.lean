/-
# The candidates embedded in an offer

`feed_embedded_candidates` (`esp32-firmware/main/webrtc_stream.c`) walks over the SDP of an offer
and passes every `a=candidate:` line on as a message of its own.  It looks for the next one eleven
bytes behind the last, inside the twelve bytes of the tag it has just found, which is safe because
the tag does not overlap itself.

`feedEmbeddedCandidates` is the loop with a bound on its rounds, and **every bound above the length
of the SDP gives the lines of all occurrences**, in order, without those that do not fit the buffer
(`feed_embedded_candidates_eq`).

A line ends at the next line feed or at the end of the SDP, without the carriage returns in front
of it.  One that does not fit the buffer with its terminator is left out and the loop goes on, so a
candidate is lost only by being too long itself.

Nothing is asked of the SDP, which comes from the browser: a tag in the middle of a line is taken
for the beginning of a candidate, by the code as by `embeddedCandidates`.
-/
import Mathlib.Data.List.DropRight
import Surveillance.Lib.CString

namespace Surveillance

namespace Firmware

/-! ## 1. The scan

One round finds a tag, measures its line and strips it. -/

/-- `MSG_BUF_SIZE`. -/
def msgBufSize : Nat := 8192

def candidateTag : List Byte := ascii "a=candidate:"

/-- `end ? end - p : strlen(p)`, where `end` is the next line feed. -/
def lineLength (p : List Byte) : Nat :=
  match strchr 0x0A p with
  | some (line, _) => line.length
  | none => p.length

/-- The loop that takes line endings off the length. -/
def stripLine (p : List Byte) : Nat → Nat
  | 0 => 0
  | len + 1 => if p[len]? = some 0x0D ∨ p[len]? = some 0x0A then stripLine p len else len + 1

/-- `feed_embedded_candidates` in at most `fuel` rounds: the candidates passed to
`esp_peer_send_msg`. -/
def feedEmbeddedCandidates : Nat → List Byte → Option (List (List Byte))
  | 0, _ => none
  | fuel + 1, p =>
    match strstr candidateTag p with
    | none => some []
    | some n =>
      let p := p.drop n
      let len := stripLine p (lineLength p)
      (feedEmbeddedCandidates fuel (p.drop 11)).map fun rest =>
        if 0 < len ∧ len < msgBufSize then p.take len :: rest else rest

/-! ## 2. The lines

The specification: a candidate for each occurrence of the tag. -/

/-- The rest of the line, without carriage returns at its end. -/
def lineText (t : List Byte) : List Byte := (t.takeWhile (· ≠ 0x0A)).rdropWhile (· == 0x0D)

/-- The candidates of an SDP. -/
def embeddedCandidates (sdp : List Byte) : List (List Byte) :=
  ((occurrences candidateTag sdp).map lineText).filter (·.length < msgBufSize)

theorem take_lineLength (p : List Byte) : p.take (lineLength p) = p.takeWhile (· ≠ 0x0A) := by
  unfold lineLength strchr
  split
  · next line _ hline =>
    split at hline
    · obtain ⟨rfl, -⟩ := Prod.mk.inj (Option.some.inj hline)
      exact (List.prefix_iff_eq_take.mp (List.takeWhile_prefix _)).symm
    · cases hline
  · next hnone =>
    split at hnone
    · cases hnone
    · next hmem =>
      rw [List.take_length, eq_comm, List.takeWhile_eq_self_iff]
      intro c hc
      rw [decide_eq_true_eq]
      rintro rfl
      exact hmem hc

theorem lineLength_le (p : List Byte) : lineLength p ≤ p.length := by
  unfold lineLength strchr
  split
  · next line _ hline =>
    split at hline
    · obtain ⟨rfl, -⟩ := Prod.mk.inj (Option.some.inj hline)
      exact (List.takeWhile_prefix _).length_le
    · cases hline
  · exact Nat.le_refl _

theorem stripLine_le (p : List Byte) (len : Nat) : stripLine p len ≤ len := by
  induction len with
  | zero => exact Nat.le_refl _
  | succ len ih =>
    unfold stripLine
    split
    · exact Nat.le_succ_of_le ih
    · exact Nat.le_refl _

theorem take_stripLine {p : List Byte} {len : Nat} (h : len ≤ p.length) :
    p.take (stripLine p len) = (p.take len).rdropWhile fun c => c == 0x0D || c == 0x0A := by
  induction len with
  | zero => rfl
  | succ len ih =>
    have hlt : len < p.length := h
    rw [List.take_succ_eq_append_getElem hlt, stripLine, List.getElem?_eq_getElem hlt]
    split
    · next hend =>
      rw [List.rdropWhile_concat_pos, ih (Nat.le_of_lt hlt)]
      simpa using hend
    · next hno =>
      rw [List.rdropWhile_concat_neg, List.take_succ_eq_append_getElem hlt]
      simpa using hno

theorem rdropWhile_congr {α : Type} {p q : α → Bool} {l : List α} (h : ∀ x ∈ l, p x = q x) :
    l.rdropWhile p = l.rdropWhile q := by
  induction l using List.reverseRecOn with
  | nil => rfl
  | append_singleton l x ih =>
    rw [List.rdropWhile_concat, List.rdropWhile_concat, h x (by simp),
      ih fun y hy => h y (List.mem_append_left _ hy)]

/-- **What is passed on is the text of the line.** -/
theorem take_stripLine_lineLength (p : List Byte) :
    p.take (stripLine p (lineLength p)) = lineText p := by
  rw [take_stripLine (lineLength_le p), take_lineLength, lineText]
  refine rdropWhile_congr fun c hc => ?_
  have hne : c ≠ 0x0A := by simpa using List.mem_takeWhile_imp hc
  simp [hne]

theorem length_lineText (p : List Byte) :
    (lineText p).length = stripLine p (lineLength p) := by
  rw [← take_stripLine_lineLength, List.length_take]
  exact Nat.min_eq_left (Nat.le_trans (stripLine_le _ _) (lineLength_le p))

/-! ## 3. Every occurrence, once

By induction on the bound, over the text from the last occurrence on. -/

/-- The tag stays part of its line. -/
theorem candidateTag_prefix_lineText {p : List Byte} (h : candidateTag <+: p) :
    candidateTag <+: lineText p := by
  obtain ⟨rest, rfl⟩ := h
  have hline : (candidateTag.all fun c => decide (c ≠ 0x0A)) = true := by decide
  rw [lineText, List.takeWhile_append_of_pos (List.all_eq_true.mp hline)]
  induction rest.takeWhile (· ≠ 0x0A) using List.reverseRecOn with
  | nil => decide
  | append_singleton l x ih =>
    rw [← List.append_assoc, List.rdropWhile_concat]
    split
    · exact ih
    · exact ⟨l ++ [x], (List.append_assoc ..).symm⟩

/-- The tag does not begin again within its first eleven bytes. -/
theorem not_candidateTag_prefix {p : List Byte} (h : candidateTag <+: p) :
    ∀ k < 10, ¬candidateTag <+: (p.drop 1).drop k := by
  obtain ⟨rest, rfl⟩ := h
  intro k hk hpre
  have hdrop : ((candidateTag ++ rest).drop 1).drop k = candidateTag.drop (1 + k) ++ rest := by
    have hle : 1 + k ≤ candidateTag.length := by
      have hlen : candidateTag.length = 12 := by decide
      omega
    rw [List.drop_drop, List.drop_append_of_le_length hle]
  have htwo : candidateTag.take 2 <+: candidateTag.drop (1 + k) := by
    refine List.prefix_of_prefix_length_le ((List.take_prefix 2 _).trans hpre)
      (hdrop ▸ List.prefix_append _ _) ?_
    rw [List.length_drop]
    have hlen : candidateTag.length = 12 := by decide
    have htake : (candidateTag.take 2).length = 2 := by decide
    omega
  have hnever : ((List.range 10).all fun k =>
      !(candidateTag.take 2).isPrefixOf (candidateTag.drop (1 + k))) = true := by decide
  have hno := List.all_eq_true.mp hnever k (List.mem_range.mpr hk)
  rw [List.isPrefixOf_iff_prefix.mpr htwo] at hno
  cases hno

/-- Going on eleven bytes later misses nothing and finds nothing twice. -/
theorem occurrences_of_found {p : List Byte} {n : Nat} (h : strstr candidateTag p = some n) :
    occurrences candidateTag p =
      p.drop n :: occurrences candidateTag ((p.drop n).drop 11) := by
  obtain ⟨hpre, hn, hfirst⟩ := strstr_eq_some h
  rw [← occurrences_drop hn hfirst]
  have hskip := not_candidateTag_prefix hpre
  have hlen : 12 ≤ (p.drop n).length := hpre.length_le
  generalize p.drop n = q at hpre hskip hlen ⊢
  cases q with
  | nil => cases hlen
  | cons c q =>
    have hten : 10 ≤ q.length := Nat.le_trans (by decide) (Nat.le_of_succ_le_succ hlen)
    have hdrop : occurrences candidateTag (q.drop 10) = occurrences candidateTag q :=
      occurrences_drop hten hskip
    rw [occurrences_cons_of_found hpre, List.drop_succ_cons, hdrop]

/-- **The loop ends, and passes on every candidate once**: any bound on the rounds above the
length of the SDP will do. -/
theorem feed_embedded_candidates_eq (sdp : List Byte) (extra : Nat) :
    feedEmbeddedCandidates (sdp.length + 1 + extra) sdp = some (embeddedCandidates sdp) := by
  have hfuel : sdp.length < sdp.length + 1 + extra := by omega
  generalize sdp.length + 1 + extra = fuel at hfuel
  induction fuel generalizing sdp with
  | zero => cases hfuel
  | succ fuel ih =>
    unfold feedEmbeddedCandidates
    split
    · next hnone => rw [embeddedCandidates, occurrences_of_strstr_none hnone]; rfl
    · next n hfound =>
      obtain ⟨hpre, -⟩ := strstr_eq_some hfound
      have hlong : 12 ≤ (sdp.drop n).length := hpre.length_le
      have hrest : ((sdp.drop n).drop 11).length < fuel := by
        rw [List.length_drop] at hlong ⊢
        rw [List.length_drop]
        omega
      have hpos : 0 < stripLine (sdp.drop n) (lineLength (sdp.drop n)) := by
        rw [← length_lineText]
        exact Nat.lt_of_lt_of_le (by decide) (candidateTag_prefix_lineText hpre).length_le
      dsimp only
      rw [ih _ hrest, Option.map_some, take_stripLine_lineLength, embeddedCandidates,
        embeddedCandidates, occurrences_of_found hfound, List.map_cons]
      by_cases hfits : (lineText (sdp.drop n)).length < msgBufSize
      · rw [if_pos ⟨hpos, length_lineText _ ▸ hfits⟩,
          List.filter_cons_of_pos (by simpa using hfits)]
      · rw [if_neg fun h => hfits (length_lineText (sdp.drop n) ▸ h.2),
          List.filter_cons_of_neg (by simpa using hfits)]

end Firmware

end Surveillance
