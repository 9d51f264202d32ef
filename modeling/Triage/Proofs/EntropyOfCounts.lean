import Mathlib.Algebra.BigOperators.Ring.Finset
import Triage.Image.Memo
import Triage.Proofs.ReportCoherence

/-! Entropy goes by how often each byte comes. The counts forget the order of the bytes before any
rounded arithmetic is done, so bytes in another order give the very same number, wherever it is
asked for. -/
namespace Triage

namespace Histogram

theorem count_add (h : Histogram) (b c : UInt8) :
    (h.add b).count c = h.count c + if c = b then 1 else 0 := by
  have hb : b.toNat < 256 := b.toNat_lt
  have hc : c.toNat < 256 := c.toNat_lt
  change (h.set b.toNat (h[b.toNat] + 1) hb)[c.toNat] = h[c.toNat] + _
  by_cases he : c = b
  · simp [he]
  · have hn : b.toNat ≠ c.toNat := fun hv => he (UInt8.toNat_inj.mp hv.symm)
    simp [he, hn]

theorem count_empty (b : UInt8) : empty.count b = 0 := by
  have hb : b.toNat < 256 := b.toNat_lt
  change (Vector.replicate 256 0)[b.toNat] = 0
  simp

theorem count_foldl (h : Histogram) (data : Bytes) (b : UInt8) :
    (data.foldl add h).count b = h.count b + data.count b := by
  induction data generalizing h with
  | nil => simp
  | cons c data ih =>
    rw [List.foldl_cons, ih, count_add, List.count_cons, Nat.add_assoc]
    by_cases hb : b = c
    · simp [hb, Nat.add_comm]
    · simp [hb, Ne.symm hb]

theorem count_ofBytes (data : Bytes) (b : UInt8) : (ofBytes data).count b = data.count b := by
  rw [ofBytes, count_foldl, count_empty, Nat.zero_add]

theorem sum_set_succ (counts : List Nat) {k : Nat} (hk : k < counts.length) :
    (counts.set k (counts[k] + 1)).sum = counts.sum + 1 := by
  induction counts generalizing k with
  | nil => simp at hk
  | cons n counts ih =>
    cases k with
    | zero =>
      simp only [List.set_cons_zero, List.sum_cons, List.getElem_cons_zero]
      omega
    | succ k =>
      have hs := ih (Nat.lt_of_succ_lt_succ hk)
      simp only [List.set_cons_succ, List.sum_cons, List.getElem_cons_succ, hs]
      omega

theorem sum_add (h : Histogram) (b : UInt8) : (h.add b).toList.sum = h.toList.sum + 1 := by
  have hb : b.toNat < h.toList.length := by simpa using b.toNat_lt
  rw [← sum_set_succ h.toList hb, add, Vector.toList_set]
  rfl

theorem sum_foldl (h : Histogram) (data : Bytes) :
    (data.foldl add h).toList.sum = h.toList.sum + data.length := by
  induction data generalizing h with
  | nil => simp
  | cons b data ih =>
    rw [List.foldl_cons, ih, sum_add, List.length_cons]
    omega

theorem sum_ofBytes (data : Bytes) : (ofBytes data).toList.sum = data.length := by
  have he : empty.toList.sum = 0 := by
    rw [empty, Vector.toList_replicate, List.sum_replicate_nat]
  rw [ofBytes, sum_foldl, he, Nat.zero_add]

theorem ext_count {g h : Histogram} (hc : ∀ b, g.count b = h.count b) : g = h := by
  apply Vector.ext
  intro k hk
  have hb := hc (UInt8.ofNat k)
  have hn : (UInt8.ofNat k).toNat = k := UInt8.toNat_ofNat_of_lt' hk
  simpa [count, Vector.get, hn] using hb

theorem ofBytes_perm {data moved : Bytes} (h : moved.Perm data) :
    ofBytes moved = ofBytes data := by
  apply ext_count
  intro b
  rw [count_ofBytes, count_ofBytes, h.count_eq]

end Histogram

theorem Bytes.entropy_perm {data moved : Bytes} (h : moved.Perm data) :
    moved.entropy = data.entropy := by
  rw [entropy, entropy, Histogram.ofBytes_perm h, h.length_eq]

namespace Once
variable {α : Type} {c : Once α} {a : α}

/-- Nothing is kept, or just this value. -/
def Holds (c : Once α) (a : α) : Prop := ∀ x ∈ c.kept, x = a

theorem Holds.get_fst (h : c.Holds a) : (c.get fun _ => a).1 = a := by
  cases hk : c.kept with
  | none => simp [get, hk]
  | some x => simpa [get, hk] using h x hk

theorem Holds.get_snd (h : c.Holds a) : (c.get fun _ => a).2.Holds a := by
  cases hk : c.kept with
  | none => simp [get, hk, Holds]
  | some x => simpa [get, hk] using h

end Once

namespace Image.Memo
variable {i : Image} {m : Memo}

/-- What has been kept of the image is what would be computed again. -/
structure Of (m : Memo) (i : Image) : Prop where
  image : m.image = i
  entropy : m.entropyKept.Holds i.entropy
  sha256 : m.sha256Kept.Holds i.sha256

theorem of_memo (i : Image) : i.memo.Of i :=
  ⟨rfl, fun _ h => by simp [memo] at h, fun _ h => by simp [memo] at h⟩

theorem Of.answers (h : m.Of i) : m.entropy.1 = i.entropy ∧ m.sha256.1 = i.sha256 ∧
    ∀ c, (m.analyze c).1 = Obfuscation.analyze c i.bytes := by
  obtain ⟨rfl, he, hs⟩ := h
  have hm : m.entropy.1 = m.image.entropy := he.get_fst
  refine ⟨hm, hs.get_fst, ?_⟩
  intro c
  rw [analyze, hm]
  rfl

inductive Request where
  | entropy
  | sha256
  | analysis (c : ObfuscationConfig)

/-- The image after a request. -/
def after (m : Memo) : Request → Memo
  | .entropy => m.entropy.2
  | .sha256 => m.sha256.2
  | .analysis c => (m.analyze c).2

theorem Of.after (h : m.Of i) (q : Request) : (m.after q).Of i := by
  obtain ⟨rfl, he, hs⟩ := h
  cases q with
  | entropy => exact ⟨rfl, he.get_snd, hs⟩
  | sha256 => exact ⟨rfl, he, hs.get_snd⟩
  | analysis c => exact ⟨rfl, he.get_snd, hs⟩

def run (m : Memo) (qs : List Request) : Memo := qs.foldl after m

theorem Of.run (h : m.Of i) (qs : List Request) : (m.run qs).Of i := by
  induction qs generalizing m with
  | nil => exact h
  | cons q qs ih => exact ih (h.after q)

/-- Whatever was asked of an image before, each answer is the one that its bytes give. -/
theorem run_answers (i : Image) (qs : List Request) :
    (i.memo.run qs).entropy.1 = i.entropy ∧ (i.memo.run qs).sha256.1 = i.sha256 ∧
    ∀ c, ((i.memo.run qs).analyze c).1 = Obfuscation.analyze c i.bytes :=
  ((of_memo i).run qs).answers

end Image.Memo

namespace Session
variable {ω : Type} {host : Host ω}

theorem entropy_analyze (s : Session) (o : SessionOptions) (w : ω) :
    (s.analyze host o w).1.obfuscation.entropy = s.image.entropy := by
  rw [analyze_eq]
  rfl

end Session

/-- Each count is the number of times that its byte comes, the counts add up to the length, and those
of two strings to those of the two together. So the entropy of bytes in another order is the same
number, also when it was asked for before, as part of an analysis, and in a report. -/
theorem entropy_rests_on_counts :
    (∀ data b, (Histogram.ofBytes data).count b = data.count b) ∧
    (∀ data, (Histogram.ofBytes data).toList.sum = data.length) ∧
    (∀ front back b, (Histogram.ofBytes (front ++ back)).count b =
      (Histogram.ofBytes front).count b + (Histogram.ofBytes back).count b) ∧
    (∀ data moved : Bytes, moved.Perm data → moved.entropy = data.entropy) ∧
    ∀ image moved : Image, moved.bytes.Perm image.bytes →
      (∀ qs qs', (moved.memo.run qs').entropy.1 = (image.memo.run qs).entropy.1) ∧
      (∀ qs qs' c c', ((moved.memo.run qs').analyze c').1.entropy =
        ((image.memo.run qs).analyze c).1.entropy) ∧
      ∀ (ω : Type) (host : Host ω) (config : Config) (r : Registry) (o : SessionOptions) (w : ω),
        (Session.analyze host ⟨moved, config, r⟩ o w).1.obfuscation.entropy =
          (Session.analyze host ⟨image, config, r⟩ o w).1.obfuscation.entropy := by
  refine ⟨Histogram.count_ofBytes, Histogram.sum_ofBytes, ?_,
    fun data moved h => Bytes.entropy_perm h, ?_⟩
  · intro front back b
    simp only [Histogram.count_ofBytes, List.count_append]
  · intro image moved h
    have he : moved.entropy = image.entropy := Bytes.entropy_perm h
    refine ⟨?_, ?_, ?_⟩
    · intro qs qs'
      rw [(Image.Memo.run_answers moved qs').1, (Image.Memo.run_answers image qs).1, he]
    · intro qs qs' c c'
      rw [(Image.Memo.run_answers moved qs').2.2, (Image.Memo.run_answers image qs).2.2]
      exact he
    · intro ω host config r o w
      rw [Session.entropy_analyze, Session.entropy_analyze]
      exact he

end Triage
