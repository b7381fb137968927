import AnalystQuery.Intent.Category

/-! The vocabulary of the domain. Sentiments, channels and priorities have canonical values with
synonyms; values of the other categories are only brought to small letters. -/

namespace AnalystQuery.Glossary

/-- A canonical value and the terms that mean it, itself among them. -/
structure Term where
  canonical : String
  synonyms : List String
  deriving DecidableEq, Repr

def sentiments : List Term :=
  [⟨"negative", ["negative", "neg", "bad", "angry", "unhappy", "upset", "frustrated",
      "dissatisfied", "annoyed", "complaint", "complaints", "hostile"]⟩,
   ⟨"neutral", ["neutral", "neu", "mixed", "indifferent", "ok", "okay", "so-so"]⟩,
   ⟨"positive", ["positive", "pos", "good", "happy", "satisfied", "pleased", "delighted",
      "grateful", "praise", "compliment"]⟩]

def channels : List Term :=
  [⟨"email", ["email", "emails", "e-mail", "e-mails", "mail", "inbox"]⟩,
   ⟨"phone", ["phone", "phones", "call", "calls", "voice", "telephone", "phone call",
      "phone calls"]⟩,
   ⟨"chat", ["chat", "chats", "live chat", "webchat", "web chat", "messaging", "im"]⟩,
   ⟨"sms", ["sms", "text", "texts", "text message", "text messages"]⟩,
   ⟨"social", ["social", "social media", "twitter", "tweet", "tweets", "facebook", "x",
      "instagram"]⟩,
   ⟨"letter", ["letter", "letters", "post", "postal"]⟩]

def priorities : List Term :=
  [⟨"critical", ["critical", "urgent", "p0", "p1", "sev1", "blocker", "emergency"]⟩,
   ⟨"high", ["high", "important", "p2", "sev2", "elevated"]⟩,
   ⟨"medium", ["medium", "normal", "p3", "sev3", "moderate", "standard"]⟩,
   ⟨"low", ["low", "minor", "p4", "sev4", "trivial"]⟩]

def canonicalValues (terms : List Term) : List String := terms.map (·.canonical)

def terms : Category → List Term
  | .sentiments => sentiments
  | .channels => channels
  | .priorities => priorities
  | _ => []

def plain (value : String) : String := Text.lowerCase (Text.trim value)

def canonical? (category : Category) (value : String) : Option String :=
  ((terms category).find? fun term => term.synonyms.contains (plain value)).map (·.canonical)

/-- The canonical value, or the value itself in small letters. -/
def normalize (category : Category) (value : String) : String :=
  (canonical? category value).getD (plain value)

private def termLine (term : Term) : String :=
  "    " ++ term.canonical ++ " <- " ++
    ", ".intercalate (term.synonyms.filter (· != term.canonical)) ++ "\n"

def promptText : String :=
  "Domain glossary (use canonical values on the left):\n" ++
    String.join ([Category.sentiments, .channels, .priorities].map fun category =>
      "- " ++ category.name ++ ":\n" ++ String.join ((terms category).map termLine))

end AnalystQuery.Glossary
