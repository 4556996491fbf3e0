/-
# Theory.HashChain -- a chain of digests commits to its links

The head of a chain is the digest of a first link, and every further head is the
digest of the head before it together with one more link.  `chain_injective`: two
chains with one head have the same links, when the hash does not collide on the
strings the two chains hash.  That is asked of those strings only, since no hash
with short digests is injective.
-/
import Mathlib.Data.List.Induction

namespace Inci.Theory

set_option autoImplicit false

/-- How a chain hashes: what is digested for the first link, and for a link after a head. -/
structure ChainScheme (String_ Digest Link : Type) where
  hash : String_ → Digest
  seed : Link → String_
  step : Digest → Link → String_

namespace ChainScheme

variable {String_ Digest Link : Type} (scheme : ChainScheme String_ Digest Link)

/-- The head over a last head: the links are newest last. -/
def extend (head : Digest) (links : List Link) : Digest :=
  links.foldl (fun digest link => scheme.hash (scheme.step digest link)) head

def chain (first : Link) (rest : List Link) : Digest :=
  scheme.extend (scheme.hash (scheme.seed first)) rest

/-- The strings hashed on the way from a head. -/
def extended (head : Digest) : List Link → List String_
  | [] => []
  | link :: rest =>
      scheme.step head link :: extended (scheme.hash (scheme.step head link)) rest

/-- The strings a chain hashes. -/
def hashed (first : Link) (rest : List Link) : List String_ :=
  scheme.seed first :: scheme.extended (scheme.hash (scheme.seed first)) rest

/-- The strings of the two lists do not collide. -/
def CollisionFree (one other : List String_) : Prop :=
  ∀ x ∈ one, ∀ y ∈ other, scheme.hash x = scheme.hash y → x = y

theorem extend_concat (head : Digest) (links : List Link) (last : Link) :
    scheme.extend head (links ++ [last]) = scheme.hash (scheme.step (scheme.extend head links) last) := by
  simp only [extend, List.foldl_append, List.foldl_cons, List.foldl_nil]

theorem extended_concat (head : Digest) (links : List Link) (last : Link) :
    scheme.extended head (links ++ [last]) =
      scheme.extended head links ++ [scheme.step (scheme.extend head links) last] := by
  induction links generalizing head with
  | nil => rfl
  | cons link rest ih =>
      rw [List.cons_append, extended, ih, extended, List.cons_append]
      rfl

theorem chain_concat (first : Link) (rest : List Link) (last : Link) :
    scheme.chain first (rest ++ [last]) = scheme.hash (scheme.step (scheme.chain first rest) last) :=
  scheme.extend_concat _ _ _

theorem hashed_concat (first : Link) (rest : List Link) (last : Link) :
    scheme.hashed first (rest ++ [last]) =
      scheme.hashed first rest ++ [scheme.step (scheme.chain first rest) last] := by
  rw [hashed, extended_concat, hashed, List.cons_append]
  rfl

/-- Every head is a digest of a string. -/
theorem chain_isDigest (first : Link) (rest : List Link) :
    ∃ x, scheme.chain first rest = scheme.hash x := by
  cases rest using List.reverseRecOn with
  | nil => exact ⟨_, rfl⟩
  | append_singleton rest last => exact ⟨_, scheme.chain_concat first rest last⟩

/-- What is hashed tells the links and the heads apart. -/
structure Separates : Prop where
  tagged : ∀ link x other, scheme.seed link ≠ scheme.step (scheme.hash x) other
  seed : ∀ one other, scheme.seed one = scheme.seed other → one = other
  step : ∀ x y one other, scheme.step (scheme.hash x) one = scheme.step (scheme.hash y) other →
    scheme.hash x = scheme.hash y ∧ one = other

/-- Two chains with one head have the same links. -/
theorem chain_injective (separates : scheme.Separates) {first other : Link} {rest others : List Link}
    (free : scheme.CollisionFree (scheme.hashed first rest) (scheme.hashed other others))
    (same : scheme.chain first rest = scheme.chain other others) :
    first = other ∧ rest = others := by
  induction rest using List.reverseRecOn generalizing others with
  | nil =>
      cases others using List.reverseRecOn with
      | nil => exact ⟨separates.seed _ _ (free _ List.mem_cons_self _ List.mem_cons_self same), rfl⟩
      | append_singleton others last =>
          rw [chain_concat] at same
          obtain ⟨x, digest⟩ := scheme.chain_isDigest other others
          have collide := free (scheme.seed first) List.mem_cons_self
            (scheme.step (scheme.chain other others) last) (by rw [hashed_concat]; simp) same
          rw [digest] at collide
          exact absurd collide (separates.tagged _ _ _)
  | append_singleton rest last ih =>
      rw [chain_concat] at same
      obtain ⟨x, digest⟩ := scheme.chain_isDigest first rest
      cases others using List.reverseRecOn with
      | nil =>
          have collide := free (scheme.step (scheme.chain first rest) last)
            (by rw [hashed_concat]; simp) (scheme.seed other) List.mem_cons_self same
          rw [digest] at collide
          exact absurd collide.symm (separates.tagged _ _ _)
      | append_singleton others final =>
          rw [chain_concat] at same
          obtain ⟨y, digest'⟩ := scheme.chain_isDigest other others
          have collide := free (scheme.step (scheme.chain first rest) last)
            (by rw [hashed_concat]; simp) (scheme.step (scheme.chain other others) final)
            (by rw [hashed_concat]; simp) same
          rw [digest, digest'] at collide
          obtain ⟨heads, rfl⟩ := separates.step _ _ _ _ collide
          have earlier : scheme.chain first rest = scheme.chain other others := by
            rw [digest, digest', heads]
          obtain ⟨rfl, rfl⟩ := ih (fun x inside y within => free x
            (by rw [hashed_concat]; exact List.mem_append_left _ inside) y
            (by rw [hashed_concat]; exact List.mem_append_left _ within)) earlier
          exact ⟨rfl, rfl⟩

end ChainScheme

end Inci.Theory
