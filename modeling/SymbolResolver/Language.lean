/-!
# Languages

The source languages that names are written in, and the sets of languages that a declaration is
visible from.
-/

namespace SymbolResolver

/-- A source language. -/
inductive Language
  /-- Java sources. -/
  | java
  /-- Kotlin sources. -/
  | kotlin
deriving DecidableEq, Repr, Ord

namespace Language

/-- Every language, in order. -/
def all : List Language := [java, kotlin]

/-- The tag that names a language in texts. -/
def tag : Language → String
  | java => "java"
  | kotlin => "kotlin"

/-- Reads a tag. Kotlin also answers to its file extension. -/
def ofTag? (text : String) : Option Language :=
  if text = "java" then some java
  else if text = "kotlin" ∨ text = "kt" then some kotlin
  else none

@[simp] theorem ofTag?_tag (language : Language) : ofTag? language.tag = some language := by
  cases language <;> simp [ofTag?, tag]

/-- The other language. -/
def other : Language → Language
  | java => kotlin
  | kotlin => java

end Language

/-- A set of languages, by its characteristic function. -/
structure LanguageSet where
  /-- Whether Java is a member. -/
  java : Bool
  /-- Whether Kotlin is a member. -/
  kotlin : Bool
deriving DecidableEq, Repr

namespace LanguageSet

/-- The set without members. -/
def empty : LanguageSet := ⟨false, false⟩

/-- The set of every language. -/
def all : LanguageSet := ⟨true, true⟩

/-- Membership. -/
def contains (languages : LanguageSet) : Language → Bool
  | .java => languages.java
  | .kotlin => languages.kotlin

/-- Adds a member. -/
def insert (languages : LanguageSet) : Language → LanguageSet
  | .java => { languages with java := true }
  | .kotlin => { languages with kotlin := true }

/-- The set with one member. -/
def singleton (language : Language) : LanguageSet := empty.insert language

/-- The set of the members of a list. -/
def ofList (members : List Language) : LanguageSet := members.foldl insert empty

/-- The members in order. -/
def toList (languages : LanguageSet) : List Language :=
  Language.all.filter languages.contains

/-- The number of members. -/
def size (languages : LanguageSet) : Nat := languages.toList.length

/-- Whether there is no member. -/
def isEmpty (languages : LanguageSet) : Bool := languages.size == 0

/-- Sets are ordered like their member lists. -/
instance : Ord LanguageSet where
  compare left right := List.compareLex compare left.toList right.toList

/-- The tags of the members between brackets. -/
def display (languages : LanguageSet) : String :=
  "[" ++ ", ".intercalate (languages.toList.map Language.tag) ++ "]"

@[simp] theorem contains_insert (languages : LanguageSet) (added language : Language) :
    (languages.insert added).contains language =
      (decide (language = added) || languages.contains language) := by
  cases added <;> cases language <;> simp [insert, contains]

@[simp] theorem ofList_toList (languages : LanguageSet) : ofList languages.toList = languages := by
  rcases languages with ⟨java, kotlin⟩
  cases java <;> cases kotlin <;> rfl

end LanguageSet

end SymbolResolver
