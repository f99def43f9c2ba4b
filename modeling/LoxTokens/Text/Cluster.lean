import LoxTokens.Text.Cluster.Class

/-!
Grapheme clusters: a text is cut into what its readers take for characters, each a base with its
marks, a syllable, a conjunct, a flag or an emoji of several parts. Main statement: nothing is
lost by the cut.
-/

namespace LoxTokens.Text

namespace Cluster

-- The characters that may stand between the parts of a conjunct. Links are among them, the mark
-- that prevents a link is not.
def isInConjunct (c : Char) : Bool :=
  (Class.ofChar c = .extender || Class.ofChar c = .joiner) && c != '\u200c'

-- Whether a consonant and a link to the next one end the cluster, given last character first.
def endsInLink (cluster : List Char) : Bool :=
  (cluster.takeWhile isInConjunct).any isLinker &&
  ((cluster.dropWhile isInConjunct).head?.map Class.ofChar) = some .consonant

-- Whether the cluster before a joiner ends in a picture.
def endsInPictograph (cluster : List Char) : Bool :=
  (cluster.dropWhile (Class.ofChar · = .extender)).head?.map Class.ofChar = some .pictograph

-- Two regional indicators make a flag, so a third one starts a new cluster.
def endsInHalfFlag (cluster : List Char) : Bool :=
  (cluster.takeWhile (Class.ofChar · = .regional)).length % 2 = 1

-- Whether a character belongs to the cluster before it, which is given last character first.
def continues (cluster : List Char) (next : Char) : Bool :=
  match cluster with
  | []             => false
  | last :: before =>
    match Class.ofChar last, Class.ofChar next with
    | .carriageReturn, .lineFeed => true
    | a, b =>
      if a.standsAlone || b.standsAlone then false
      else if a = .prepended || b.attaches then true
      else match a, b with
        | .regional, .regional   => endsInHalfFlag cluster
        | .joiner,   .pictograph => endsInPictograph before
        | _,         .consonant  => endsInLink cluster
        | a,         b           => a.continuesSyllable b

-- The clusters so far, and in each its characters, come last first.
def add (clusters : List (List Char)) (c : Char) : List (List Char) :=
  match clusters with
  | cluster :: rest => if continues cluster c then (c :: cluster) :: rest else [c] :: clusters
  | []              => [[c]]

end Cluster

def clusters (text : List Char) : List (List Char) :=
  ((text.foldl Cluster.add []).map List.reverse).reverse

namespace Cluster

theorem flatten_add (clusters : List (List Char)) (c : Char) :
    (add clusters c).flatten = c :: clusters.flatten := by
  unfold add
  split
  · split <;> simp
  · simp

theorem flatten_foldl_add (clusters : List (List Char)) (text : List Char) :
    (text.foldl add clusters).flatten = text.reverse ++ clusters.flatten := by
  induction text generalizing clusters with
  | nil          => rfl
  | cons c cs ih => simp [ih, flatten_add]

end Cluster

theorem flatten_clusters (text : List Char) : (clusters text).flatten = text := by
  rw [clusters, ← List.reverse_flatten, Cluster.flatten_foldl_add]
  simp

end LoxTokens.Text
