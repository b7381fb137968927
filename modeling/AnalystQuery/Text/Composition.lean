/-! Letters with marks. A text can hold a letter and its marks as one character or as several;
here it is brought to one form. Marks stand in a fixed order behind their letter and are joined
to it where one character stands for both. The tables hold the small letters of the Latin,
Greek, Cyrillic and Arabic alphabets and kana; Hangul syllables are joined by arithmetic. -/

namespace AnalystQuery.Text

/-- A mark with letters that it can be joined to. -/
structure MarkRow where
  mark : Char
  /-- marks of different ranks do not touch each other, and the lower rank stands first -/
  rank : Nat
  letters : String

def markRows : List MarkRow :=
  [⟨'\u0300', 230, "aàeèiìoòuùüǜnǹеѐиѝēḕōṑwẁâầăằêềôồơờưừyỳἀἂἁἃἐἒἑἓἠἢἡἣἰἲἱἳὀὂὁὃὐὒὑὓὠὢ"⟩,
   ⟨'\u0300', 230, "ὡὣαὰεὲηὴιὶοὸυὺωὼϊῒϋῢ"⟩,
   ⟨'\u0301', 230, "aáeéiíoóuúyýcćlĺnńrŕsśzźüǘgǵåǻæǽøǿϊΐαάεέηήιίϋΰοόυύωώгѓкќçḉēḗïḯkḱ"⟩,
   ⟨'\u0301', 230, "mḿõṍōṓpṕũṹwẃâấăắêếôốơớưứἀἄἁἅἐἔἑἕἠἤἡἥἰἴἱἵὀὄὁὅὐὔὑὕὠὤὡὥ"⟩,
   ⟨'\u0302', 230, "aâeêiîoôuûcĉgĝhĥjĵsŝwŵyŷzẑạậẹệọộ"⟩,
   ⟨'\u0303', 230, "aãnñoõiĩuũvṽâẫăẵeẽêễôỗơỡưữyỹ"⟩,
   ⟨'\u0304', 230, "aāeēiīoōuūüǖäǟȧǡæǣǫǭöȫõȭȯȱyȳиӣуӯgḡḷḹṛṝαᾱιῑυῡ"⟩,
   ⟨'\u0306', 230, "aăeĕgğiĭoŏuŭийуўжӂаӑеӗȩḝạặαᾰιῐυῠ"⟩,
   ⟨'\u0307', 230, "cċeėgġzżaȧoȯbḃdḋfḟhḣmṁnṅpṗrṙsṡśṥšṧṣṩtṫwẇxẋyẏ"⟩,
   ⟨'\u0308', 230, "aäeëiïoöuüyÿιϊυϋеёіїаӓәӛжӝзӟиӥоӧөӫэӭуӱчӵыӹhḧõṏūṻwẅxẍtẗ"⟩,
   ⟨'\u0309', 230, "aảâẩăẳeẻêểiỉoỏôổơởuủưửyỷ"⟩, ⟨'\u030a', 230, "aåuůwẘyẙ"⟩,
   ⟨'\u030b', 230, "oőuűуӳ"⟩, ⟨'\u030c', 230, "cčdďeělľnňrřsštťzžaǎiǐoǒuǔüǚgǧkǩʒǯjǰhȟ"⟩,
   ⟨'\u030f', 230, "aȁeȅiȉoȍrȑuȕѵѷ"⟩, ⟨'\u0311', 230, "aȃeȇiȋoȏrȓuȗ"⟩,
   ⟨'\u0313', 230, "αἀεἐηἠιἰοὀυὐωὠρῤ"⟩, ⟨'\u0314', 230, "αἁεἑηἡιἱοὁυὑωὡρῥ"⟩,
   ⟨'\u031b', 216, "oơuư"⟩, ⟨'\u0323', 220, "bḅdḍhḥkḳlḷmṃnṇrṛsṣtṭvṿwẉzẓaạeẹiịoọơợuụưựyỵ"⟩,
   ⟨'\u0324', 220, "uṳ"⟩, ⟨'\u0325', 220, "aḁ"⟩, ⟨'\u0326', 220, "sștț"⟩,
   ⟨'\u0327', 202, "cçgģkķlļnņrŗsştţeȩdḑhḩ"⟩, ⟨'\u0328', 202, "aąeęiįuųoǫ"⟩,
   ⟨'\u032d', 220, "dḓeḙlḽnṋtṱuṷ"⟩, ⟨'\u032e', 220, "hḫ"⟩, ⟨'\u0330', 220, "eḛiḭuṵ"⟩,
   ⟨'\u0331', 220, "bḇdḏkḵlḻnṉrṟtṯzẕhẖ"⟩, ⟨'\u0342', 230, "ἀἆἁἇἠἦἡἧἰἶἱἷὐὖὑὗὠὦὡὧαᾶηῆιῖϊῗυῦϋῧωῶ"⟩,
   ⟨'\u0653', 230, "اآ"⟩, ⟨'\u0654', 230, "اأوؤيئەۀہۂےۓ"⟩, ⟨'\u0655', 220, "اإ"⟩,
   ⟨'\u3099', 8, "かがきぎくぐけげこごさざしじすずせぜそぞただちぢつづてでとどはばひびふぶへべほぼうゔゝゞカガキギクグケゲコゴサザシジスズセゼソゾ"⟩,
   ⟨'\u3099', 8, "タダチヂツヅテデトドハバヒビフブヘベホボウヴワヷヰヸヱヹヲヺヽヾ"⟩, ⟨'\u309a', 8, "はぱひぴふぷへぺほぽハパヒピフプヘペホポ"⟩]

def markRank? (c : Char) : Option Nat := (markRows.find? (·.mark == c)).map MarkRow.rank

private def pairsOf : List Char → List (Char × Char)
  | letter :: whole :: rest => (letter, whole) :: pairsOf rest
  | _ => []

def letterAndMark? (whole : Char) : Option (Char × Char) :=
  markRows.findSome? fun row =>
    ((pairsOf row.letters.toList).find? (·.2 == whole)).map fun pair => (pair.1, row.mark)

/-- The letter without marks in a character, and the marks, at most `count` of them. -/
def takeApart (count : Nat) (c : Char) : List Char :=
  match count, letterAndMark? c with
  | count + 1, some (letter, mark) => takeApart count letter ++ [mark]
  | _, _ => [c]

def mostMarks : Nat := 3

/-- Puts a character behind others, given with the last one first: a mark passes marks of higher
ranks. -/
def placeMark (c : Char) : List Char → List Char
  | [] => [c]
  | last :: before =>
    match markRank? c, markRank? last with
    | some rank, some other =>
      if rank < other then last :: placeMark c before else c :: last :: before
    | _, _ => c :: last :: before

def orderMarks (text : List Char) : List Char :=
  (text.foldl (fun before c => placeMark c before) []).reverse

private def hangulSyllable? (first second : Char) : Option Char :=
  let a := first.toNat
  let b := second.toNat
  if 0x1100 ≤ a && a ≤ 0x1112 && 0x1161 ≤ b && b ≤ 0x1175 then
    some (Char.ofNat (0xAC00 + ((a - 0x1100) * 21 + (b - 0x1161)) * 28))
  else if 0xAC00 ≤ a && a ≤ 0xD7A3 && (a - 0xAC00) % 28 = 0 && 0x11A8 ≤ b && b ≤ 0x11C2 then
    some (Char.ofNat (a + (b - 0x11A7)))
  else none

private def markedLetter? (letter mark : Char) : Option Char :=
  markRows.findSome? fun row =>
    if row.mark = mark then ((pairsOf row.letters.toList).find? (·.1 == letter)).map (·.2)
    else none

/-- The character for a letter and what stands behind it, past marks that could not be joined. A
mark of the same rank in between keeps them apart, and so does any mark before a letter. -/
def joined? (letter : Char) (passed : List Char) (c : Char) : Option Char :=
  match passed with
  | [] => (markedLetter? letter c).or (hangulSyllable? letter c)
  | last :: _ => if markRank? last = markRank? c then none else markedLetter? letter c

def joinMarks (letter : Char) (passed : List Char) : List Char → List Char
  | [] => letter :: passed.reverse
  | c :: rest =>
    match joined? letter passed c with
    | some whole => joinMarks whole passed rest
    | none =>
      if (markRank? c).isSome then joinMarks letter (c :: passed) rest
      else letter :: passed.reverse ++ joinMarks c [] rest

def composed (text : List Char) : List Char :=
  match orderMarks (text.flatMap (takeApart mostMarks)) with
  | [] => []
  | c :: rest => joinMarks c [] rest

end AnalystQuery.Text
