import FindQuery.Text.ClusterClass

/-!
# Clusters

A text falls into clusters, the runs of characters that a reader sees as one
sign.  `joins` decides whether a character goes on with the cluster before it,
and `clusters` cuts a text where it does not.  The clusters make up the text
(`flatten_clusters`), and none of them is empty.
-/

namespace FindQuery.Text

open ClusterClass

/-- Whether a cluster ends in a pictograph and extensions of it; its last character comes first. -/
def endsInPictograph (cluster : List Char) : Bool :=
  match cluster.dropWhile fun character => (ofChar character).isExtension with
  | [] => false
  | base :: _ => ofChar base = .pictograph

/-- Whether a cluster ends in a consonant with a linker on it; its last character comes first. -/
def endsInLinker (cluster : List Char) : Bool :=
  let marks := cluster.takeWhile fun character => (ofChar character).isConjunctMark
  match cluster.drop marks.length with
  | [] => false
  | base :: _ =>
      ofChar base = .consonant && marks.any fun mark => ofChar mark = .linker

/-- Whether a cluster ends in half a flag; its last character comes first. -/
def endsInHalfFlag (cluster : List Char) : Bool :=
  (cluster.takeWhile fun character => ofChar character = .regional).length % 2 = 1

/-- Whether a character goes on with a cluster; the last character of the cluster comes first. -/
def joins (cluster : List Char) (next : Char) : Bool :=
  match cluster with
  | [] => false
  | last :: earlier =>
      let before := ofChar last
      let after := ofChar next
      if before.isControl || after.isControl then
        before = .carriageReturn && after = .lineFeed
      else if before = .prepended || after.isMark then
        true
      else
        match after with
        | .leading | .openSyllable | .closedSyllable => before = .leading
        | .vowel => (before matches .leading | .vowel | .openSyllable)
        | .trailing => (before matches .vowel | .trailing | .openSyllable | .closedSyllable)
        | .consonant => endsInLinker cluster
        | .pictograph => before = .joiner && endsInPictograph earlier
        | .regional => endsInHalfFlag cluster
        | _ => false

/-- The clusters of a text that goes on after part of a cluster, its last character first. -/
def clustersAfter (cluster : List Char) : List Char → List (List Char)
  | [] => [cluster.reverse]
  | first :: rest =>
      if joins cluster first then
        clustersAfter (first :: cluster) rest
      else
        cluster.reverse :: clustersAfter [first] rest

/-- The clusters of a text. -/
def clusters : List Char → List (List Char)
  | [] => []
  | first :: rest => clustersAfter [first] rest

theorem flatten_clustersAfter (cluster text : List Char) :
    (clustersAfter cluster text).flatten = cluster.reverse ++ text := by
  induction text generalizing cluster with
  | nil => simp [clustersAfter]
  | cons first rest hypothesis =>
      unfold clustersAfter
      split <;> simp [hypothesis]

/-- The clusters of a text make it up. -/
@[simp]
theorem flatten_clusters (text : List Char) : (clusters text).flatten = text := by
  cases text with
  | nil => rfl
  | cons first rest => simp [clusters, flatten_clustersAfter]

theorem ne_nil_of_mem_clustersAfter
    {cluster text found : List Char}
    (nonempty : cluster ≠ [])
    (member : found ∈ clustersAfter cluster text) :
    found ≠ [] := by
  induction text generalizing cluster with
  | nil => simp_all [clustersAfter]
  | cons first rest hypothesis =>
      unfold clustersAfter at member
      split at member
      · exact hypothesis (List.cons_ne_nil _ _) member
      · rcases List.mem_cons.1 member with rfl | later
        · simpa using nonempty
        · exact hypothesis (List.cons_ne_nil _ _) later

/-- No cluster of a text is empty. -/
theorem ne_nil_of_mem_clusters
    {text found : List Char}
    (member : found ∈ clusters text) :
    found ≠ [] := by
  cases text with
  | nil => simp [clusters] at member
  | cons first rest => exact ne_nil_of_mem_clustersAfter (List.cons_ne_nil _ _) member

end FindQuery.Text
