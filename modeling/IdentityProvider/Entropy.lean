import IdentityProvider.Digest.Sha256

/-!
# Fresh bytes

Salts and new keys need bytes that nobody can tell beforehand. They are drawn
from a seed by digesting it with a counter, so that every draw differs.
-/

namespace IdentityProvider

/-- Where fresh bytes come from: it gives as many as are asked for, and goes on from there. -/
structure Supply (σ : Type) where
  draw : σ → Nat → Bytes × σ
  length_draw : ∀ s count, (draw s count).1.length = count

structure Entropy where
  seed : Bytes
  counter : Nat
  deriving Repr

namespace Entropy

def block (e : Entropy) (i : Nat) : Bytes :=
  Digest.sha256 (e.seed ++ Bytes.ofNat 8 (e.counter + i))

/-- So many fresh bytes, and what the next draw starts from. -/
def draw (e : Entropy) (count : Nat) : Bytes × Entropy :=
  let blocks := count / 32 + 1
  (((List.range blocks).flatMap e.block).take count, ⟨e.seed, e.counter + blocks⟩)

theorem length_draw (e : Entropy) (count : Nat) : (e.draw count).1.length = count := by
  have hblocks : ((List.range (count / 32 + 1)).flatMap e.block).length =
      (count / 32 + 1) * 32 := by
    simp [List.length_flatMap, block, Digest.length_sha256, List.map_const']
  simp only [draw, List.length_take, hblocks]
  omega

def supply : Supply Entropy := ⟨draw, length_draw⟩

end Entropy

end IdentityProvider
