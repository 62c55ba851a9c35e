import OrderDesk.Text.Base64
import Mathlib.Data.List.Basic

/-!
# Octets as letters and back

An octet list is cut into six-bit numbers, each written as one letter; nothing is lost.

* `sixes`                     the six-bit numbers of an octet list;
* `octets?_sixes`             they are put together again;
* `decodeUrl?_encodeUrl`      the address form reads back as the octets;
* `encodeUrl_safe`            it has letters, digits and two marks only.
-/

namespace OrderDesk.Base64

/-- the six-bit numbers of an octet list; the last one of an incomplete group ends in zeros -/
def sixes : Octets → List Nat
  | [] => []
  | [a] => [a.toNat * 16 / 64, a.toNat * 16 % 64]
  | [a, b] =>
    let n := (a.toNat * 256 + b.toNat) * 4
    [n / 4096, n / 64 % 64, n % 64]
  | a :: b :: c :: rest =>
    let n := a.toNat * 65536 + b.toNat * 256 + c.toNat
    n / 262144 :: n / 4096 % 64 :: n / 64 % 64 :: n % 64 :: sixes rest

variable {bs : Octets}

theorem sixes_lt {n : Nat} (h : n ∈ sixes bs) : n < 64 := by
  induction bs using sixes.induct with
  | case1 => cases h
  | case2 a =>
    have ha := a.toNat_lt
    simp only [sixes, List.mem_cons, List.not_mem_nil, or_false] at h
    omega
  | case3 a b =>
    have ha := a.toNat_lt
    have hb := b.toNat_lt
    simp only [sixes, List.mem_cons, List.not_mem_nil, or_false] at h
    omega
  | case4 a b c rest ih =>
    have ha := a.toNat_lt
    have hb := b.toNat_lt
    have hc := c.toNat_lt
    simp only [sixes, List.mem_cons] at h
    rcases h with h | h | h | h | h
    · omega
    · omega
    · omega
    · omega
    · exact ih h

theorem encodeWith_eq (p q : Char) (bs : Octets) :
    encodeWith p q [] bs = (sixes bs).map (letter p q) := by
  induction bs using sixes.induct with
  | case1 | case2 | case3 => rfl
  | case4 a b c rest ih => simp only [encodeWith, sixes, List.map_cons, ih]

/-- **The six-bit numbers of an octet list are put together again.** -/
theorem octets?_sixes (bs : Octets) : octets? (sixes bs) = some bs := by
  induction bs using sixes.induct with
  | case1 => rfl
  | case2 a =>
    have hjoined : (a.toNat * 16 / 64 * 64 + a.toNat * 16 % 64) / 16 = a.toNat := by omega
    simp only [sixes, octets?, hjoined, UInt8.ofNat_toNat]
  | case3 a b =>
    have hb := b.toNat_lt
    have hjoined (n : Nat) : n / 4096 * 4096 + n / 64 % 64 * 64 + n % 64 = n := by omega
    have hfirst : (a.toNat * 256 + b.toNat) * 4 / 4 / 256 = a.toNat := by omega
    have hlast : (a.toNat * 256 + b.toNat) * 4 / 4 % 256 = b.toNat := by omega
    simp only [sixes, octets?, hjoined, hfirst, hlast, UInt8.ofNat_toNat]
  | case4 a b c rest ih =>
    have hb := b.toNat_lt
    have hc := c.toNat_lt
    have hjoined (n : Nat) :
        n / 262144 * 262144 + n / 4096 % 64 * 4096 + n / 64 % 64 * 64 + n % 64 = n := by omega
    have hfirst : (a.toNat * 65536 + b.toNat * 256 + c.toNat) / 65536 = a.toNat := by omega
    have hsecond : (a.toNat * 65536 + b.toNat * 256 + c.toNat) / 256 % 256 = b.toNat := by omega
    have hlast : (a.toNat * 65536 + b.toNat * 256 + c.toNat) % 256 = c.toNat := by omega
    simp only [sixes, octets?, hjoined, hfirst, hsecond, hlast, UInt8.ofNat_toNat, ih,
      Option.map_some]

/-! ## the address form -/

theorem value?_letter : ∀ n < 64, value? '-' '_' (letter '-' '_' n) = some n := by decide

/-- the letters, digits and marks of the address form -/
def isUrlSafe (c : Char) : Bool := (value? '-' '_' c).isSome

/-- The address form has letters, digits and two marks only. -/
theorem encodeUrl_safe {c : Char} (h : c ∈ (encodeUrl bs).toList) : isUrlSafe c = true := by
  rw [encodeUrl, String.toList_ofList, encodeWith_eq] at h
  obtain ⟨n, hn, rfl⟩ := List.mem_map.mp h
  rw [isUrlSafe, value?_letter n (sixes_lt hn)]
  rfl

theorem ne_of_urlSafe {c d : Char} (hc : isUrlSafe c = true) (hd : isUrlSafe d = false) : c ≠ d := by
  rintro rfl
  rw [hd] at hc
  cases hc

theorem mapM_value? {ns : List Nat} (h : ∀ n ∈ ns, n < 64) :
    (ns.map (letter '-' '_')).mapM (value? '-' '_') = some ns := by
  induction ns with
  | nil => rfl
  | cons n ns ih =>
    rw [List.map_cons, List.mapM_cons, value?_letter n (h n List.mem_cons_self),
      ih fun m hm => h m (List.mem_cons_of_mem _ hm)]
    rfl

/-- **The address form reads back as the octets it was written from.** -/
theorem decodeUrl?_encodeUrl (bs : Octets) : decodeUrl? (encodeUrl bs) = some bs := by
  have hfilter : ((encodeUrl bs).toList.filter fun c => c != '\n' && c != '\r')
      = (sixes bs).map (letter '-' '_') := by
    rw [List.filter_eq_self.mpr, encodeUrl, String.toList_ofList, encodeWith_eq]
    intro c hc
    have hsafe := encodeUrl_safe hc
    rw [Bool.and_eq_true, bne_iff_ne, bne_iff_ne]
    exact ⟨ne_of_urlSafe hsafe (by decide), ne_of_urlSafe hsafe (by decide)⟩
  unfold decodeUrl?
  rw [hfilter, mapM_value? fun _ hn => sixes_lt hn]
  exact octets?_sixes bs

end OrderDesk.Base64
