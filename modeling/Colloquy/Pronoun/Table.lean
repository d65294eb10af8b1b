import Colloquy.Text.Basic

namespace Colloquy.Pronoun

/-!
# Pronoun tables

Three tables swap words between points of view: first and second person, first
and third person, masculine and feminine. A table gives the replacement of a
word that is written in lowercase with straight apostrophes.
-/

/-- The points of view between which words are swapped. -/
inductive Swap where
  | firstSecond
  | firstThird
  | masculineFeminine
  deriving DecidableEq, Repr

/-- First and second person. -/
def firstSecondPairs : List (String × String) := [
  ("i", "you"), ("me", "you"), ("my", "your"), ("mine", "yours"), ("myself", "yourself"),
  ("am", "are"), ("i'm", "you're"), ("i've", "you've"), ("i'll", "you'll"), ("i'd", "you'd"),
  ("your", "my"), ("yours", "mine"), ("yourself", "myself"), ("you're", "I'm"),
  ("you've", "I've"), ("you'll", "I'll"), ("you'd", "I'd"), ("us", "you"), ("our", "your"),
  ("ours", "yours"), ("ourselves", "yourselves"), ("yourselves", "ourselves")]

/-- First and third person. -/
def firstThirdPairs : List (String × String) := [
  ("i", "he"), ("me", "him"), ("my", "his"), ("mine", "his"), ("myself", "himself"),
  ("am", "is"), ("i'm", "he's"), ("i've", "he's"), ("i'll", "he'll"), ("i'd", "he'd"),
  ("he", "I"), ("she", "I"), ("him", "me"), ("his", "my"), ("hers", "mine"),
  ("himself", "myself"), ("herself", "myself"), ("he's", "I'm"), ("she's", "I'm"),
  ("he'll", "I'll"), ("she'll", "I'll"), ("he'd", "I'd"), ("she'd", "I'd")]

/-- Masculine and feminine. -/
def masculineFemininePairs : List (String × String) := [
  ("he", "she"), ("she", "he"), ("him", "her"), ("his", "her"), ("hers", "his"),
  ("himself", "herself"), ("herself", "himself"), ("he's", "she's"), ("she's", "he's"),
  ("he'll", "she'll"), ("she'll", "he'll"), ("he'd", "she'd"), ("she'd", "he'd"),
  ("man", "woman"), ("woman", "man"), ("men", "women"), ("women", "men"), ("boy", "girl"),
  ("girl", "boy"), ("boys", "girls"), ("girls", "boys"), ("mr", "ms"), ("ms", "mr"),
  ("mrs", "mr"), ("king", "queen"), ("queen", "king"), ("father", "mother"),
  ("mother", "father"), ("brother", "sister"), ("sister", "brother"), ("son", "daughter"),
  ("daughter", "son"), ("husband", "wife"), ("wife", "husband"),
  ("boyfriend", "girlfriend"), ("girlfriend", "boyfriend")]

/-- Words after which a bare "you" was the subject of its clause. -/
def subjectVerbs : List String := [
  "are", "were", "have", "had", "will", "would", "can", "could", "should", "shall", "do",
  "did", "don't", "didn't", "can't", "won't", "may", "might", "must", "need", "want", "like",
  "love", "hate", "know", "think", "feel", "see", "say", "said", "get", "go", "went", "seem",
  "look", "really", "also", "always", "never"]

/-- Words before which "her" is an object and not a possessive. -/
def objectFollowers : List String := [
  "and", "or", "but", "to", "at", "in", "on", "with", "for", "from", "about", "is", "was",
  "that", "then", "too", "again", "yesterday", "today", "tomorrow", "now", "back", "up",
  "down", "out", "off", "away"]

/-- The pairs of a swap. -/
def Swap.pairs : Swap → List (String × String)
  | .firstSecond => firstSecondPairs
  | .firstThird => firstThirdPairs
  | .masculineFeminine => masculineFemininePairs

/-- The word is in the list. -/
def listed
    (entries : List String)
    (word : Text) :
    Bool :=
  entries.any (·.toList == word)

/-- The replacement that a swap's table gives for a word. -/
def Swap.tabulated?
    (swap : Swap)
    (word : Text) :
    Option Text :=
  (swap.pairs.find? (·.1.toList == word)).map (·.2.toList)

/-- The next word makes "her" a possessive. -/
def possessiveBefore (next : Option Text) : Bool :=
  next.any fun word => !word.isEmpty && !listed objectFollowers word

/--
The replacement of a word that its neighbours decide: "you" is a subject at the
start and before some verbs, "her" is a possessive before most words, and some
verbs follow their pronoun.
-/
def Swap.contextual?
    (swap : Swap)
    (first : Bool)
    (previous next : Option Text)
    (word : Text) :
    Option Text :=
  let after (pronoun : String) : Bool := previous == some pronoun.toList
  let is (spelling : String) : Bool := word == spelling.toList
  match swap with
  | .firstSecond =>
      if is "you" then
        some (if first || next.any (listed subjectVerbs) then "I".toList else "me".toList)
      else if is "are" && after "you" then
        some "am".toList
      else if is "were" && after "you" then
        some "was".toList
      else if is "was" && after "i" then
        some "were".toList
      else
        none
  | .firstThird =>
      if is "is" && (after "he" || after "she") then
        some "am".toList
      else if is "was" && after "i" then
        some "was".toList
      else if is "her" then
        some (if possessiveBefore next then "my".toList else "me".toList)
      else
        none
  | .masculineFeminine =>
      if is "her" then
        some (if possessiveBefore next then "his".toList else "him".toList)
      else
        none

end Colloquy.Pronoun
