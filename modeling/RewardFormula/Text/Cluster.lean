import RewardFormula.Text.ClusterRole

/-!
# Clusters

The characters of a line, cut into what a reader takes for single characters. A
cut loses nothing (`flatten_clusters`) and has no empty piece
(`nil_not_mem_clusters`).
-/

namespace RewardFormula

namespace Cluster

/-- Whether a text, given from its end, asks for an Indic consonant: it ends in
such a consonant and marks, and a linker is among the marks. -/
def linksConsonant (linked : Bool) : List Char → Bool
  | [] => false
  | last :: before =>
    match ClusterRole.ofChar last with
    | .linker => linksConsonant true before
    | .mark | .joiner => linksConsonant linked before
    | .indicConsonant => linked
    | _ => false

/-- Whether a text, given from its end, ends in a pictograph and marks. -/
def endsInPictograph : List Char → Bool
  | [] => false
  | last :: before =>
    match ClusterRole.ofChar last with
    | .linker | .mark | .separator => endsInPictograph before
    | .pictograph => true
    | _ => false

/-- Whether a text, given from its end, ends in a letter of a flag. -/
def endsInFlagLetter : List Char → Bool
  | [] => false
  | last :: _ => ClusterRole.ofChar last == .flagLetter

/-- Whether a character belongs to the cluster before it. The cluster is given
as its last character and those before that, from the end. -/
def continues (last : Char) (before : List Char) (next : Char) : Bool :=
  match ClusterRole.ofChar last, ClusterRole.ofChar next with
  | .control, _ => false
  | _, .control => false
  | _, .mark | _, .linker | _, .separator | _, .joiner | _, .spacingMark => true
  | .leading, _ => true
  | .syllableInitial, .syllableInitial | .syllableInitial, .syllableVowel => true
  | .syllableInitial, .openSyllable | .syllableInitial, .closedSyllable => true
  | .openSyllable, .syllableVowel | .openSyllable, .syllableFinal => true
  | .syllableVowel, .syllableVowel | .syllableVowel, .syllableFinal => true
  | .closedSyllable, .syllableFinal | .syllableFinal, .syllableFinal => true
  | .joiner, .pictograph => endsInPictograph before
  | .flagLetter, .flagLetter => !endsInFlagLetter before
  | _, .indicConsonant => linksConsonant false (last :: before)
  | _, _ => false

/-- The clusters of a text whose first characters are known to be in one: the
last of them, and those before it from the end. -/
def split (last : Char) (before : List Char) : List Char → List (List Char)
  | [] => [(last :: before).reverse]
  | next :: rest =>
    if continues last before next then split next (last :: before) rest
    else (last :: before).reverse :: split next [] rest

theorem flatten_split (last : Char) (before rest : List Char) :
    (split last before rest).flatten = before.reverse ++ last :: rest := by
  induction rest generalizing last before with
  | nil => simp [split]
  | cons next rest inductionHypothesis =>
    rw [split]
    split
    · simp [inductionHypothesis]
    · simp [inductionHypothesis]

theorem nil_not_mem_split (last : Char) (before rest : List Char) :
    [] ∉ split last before rest := by
  induction rest generalizing last before with
  | nil => simp [split]
  | cons next rest inductionHypothesis =>
    rw [split]
    split
    · exact inductionHypothesis next (last :: before)
    · simp [inductionHypothesis]

end Cluster

def clusters : List Char → List (List Char)
  | [] => []
  | first :: rest => Cluster.split first [] rest

theorem flatten_clusters (text : List Char) : (clusters text).flatten = text := by
  cases text with
  | nil => rfl
  | cons first rest => simp [clusters, Cluster.flatten_split]

theorem nil_not_mem_clusters (text : List Char) : [] ∉ clusters text := by
  cases text with
  | nil => simp [clusters]
  | cons first rest => exact Cluster.nil_not_mem_split first [] rest

end RewardFormula
