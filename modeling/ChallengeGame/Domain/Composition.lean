import ChallengeGame.Domain.Marks

/-!
# Composed characters

A letter with marks may be one character or several. The composed form of a text has as
few characters as possible, and marks in the order of their classes. Only characters that
a domain keeps as they are have their compositions here.
-/

namespace ChallengeGame.Domain.Composition

/-- For each second character, the first characters it composes with, each followed by
the character that comes of it. -/
def rows : List (Nat × String) := [
  (0x300, "aàeèiìnǹoòuùwẁyỳâầêềôồüǜăằēḕōṑơờưừαὰεὲηὴιὶοὸυὺωὼϊῒϋῢеѐиѝἀἂ"),
  (0x300, "ἁἃἐἒἑἓἠἢἡἣἰἲἱἳὀὂὁὃὐὒὑὓὠὢὡὣ"),
  (0x301, "aácćeégǵiíkḱlĺmḿnńoópṕrŕsśuúwẃyýzźâấåǻæǽçḉêếïḯôốõṍøǿüǘăắēḗōṓũṹơớ"),
  (0x301, "ưứαάεέηήιίοόυύωώϊΐϋΰгѓкќἀἄἁἅἐἔἑἕἠἤἡἥἰἴἱἵὀὄὁὅὐὔὑὕὠὤ"),
  (0x301, "ὡὥ"),
  (0x302, "aâcĉeêgĝhĥiîjĵoôsŝuûwŵyŷzẑạậẹệọộ"),
  (0x303, "aãeẽiĩnñoõuũvṽyỹâẫêễôỗăẵơỡưữ"),
  (0x304, "aāeēgḡiīoōuūyȳäǟæǣõȭöȫüǖǫǭȧǡȯȱαᾱιῑυῡиӣуӯḷḹṛṝ"),
  (0x306, "aăeĕgğiĭoŏuŭȩḝαᾰιῐυῠаӑеӗжӂийуўạặ"),
  (0x307, "aȧbḃcċdḋeėfḟgġhḣmṁnṅoȯpṗrṙsṡtṫwẇxẋyẏzżśṥšṧṣṩ𐗒𐗉𐗚𐗤"),
  (0x308, "aäeëhḧiïoötẗuüwẅxẍyÿõṏūṻιϊυϋаӓеёжӝзӟиӥоӧуӱчӵыӹэӭіїәӛөӫ"),
  (0x309, "aảeẻiỉoỏuủyỷâẩêểôổăẳơởưử"),
  (0x30a, "aåuůwẘyẙ"),
  (0x30b, "oőuűуӳ"),
  (0x30c, "aǎcčdďeěgǧhȟiǐjǰkǩlľnňoǒrřsštťuǔzžüǚʒǯ"),
  (0x30f, "aȁeȅiȉoȍrȑuȕѵѷ"),
  (0x311, "aȃeȇiȋoȏrȓuȗ"),
  (0x313, "αἀεἐηἠιἰοὀρῤυὐωὠ"),
  (0x314, "αἁεἑηἡιἱοὁρῥυὑωὡ"),
  (0x31b, "oơuư"),
  (0x323, "aạbḅdḍeẹhḥiịkḳlḷmṃnṇoọrṛsṣtṭuụvṿwẉyỵzẓơợưự"),
  (0x324, "uṳ"),
  (0x325, "aḁ"),
  (0x326, "sștț"),
  (0x327, "cçdḑeȩgģhḩkķlļnņrŗsştţ"),
  (0x328, "aąeęiįoǫuų"),
  (0x32d, "dḓeḙlḽnṋtṱuṷ"),
  (0x32e, "hḫ"),
  (0x330, "eḛiḭuṵ"),
  (0x331, "bḇdḏhẖkḵlḻnṉrṟtṯzẕ"),
  (0x338, "<≮=≠>≯←↚→↛↔↮⇐⇍⇒⇏⇔⇎∃∄∈∉∋∌∣∤∥∦∼≁≃≄≅≇≈≉≍≭≡≢"),
  (0x338, "≤≰≥≱≲≴≳≵≶≸≷≹≺⊀≻⊁≼⋠≽⋡⊂⊄⊃⊅⊆⊈⊇⊉⊑⋢⊒⋣⊢⊬⊨⊭⊩⊮⊫⊯"),
  (0x338, "⊲⋪⊳⋫⊴⋬⊵⋭"),
  (0x342, "αᾶηῆιῖυῦωῶϊῗϋῧἀἆἁἇἠἦἡἧἰἶἱἷὐὖὑὗὠὦὡὧ"),
  (0x653, "\u0627\u0622"),
  (0x654, "\u0627\u0623\u0648\u0624\u064a\u0626\u06c1\u06c2\u06d2\u06d3\u06d5\u06c0"),
  (0x655, "\u0627\u0625"),
  (0x93c, "नऩरऱळऴ"),
  (0x9be, "\u09c7\u09cb"),
  (0x9d7, "\u09c7\u09cc"),
  (0xb3e, "\u0b47\u0b4b"),
  (0xb56, "\u0b47\u0b48"),
  (0xb57, "\u0b47\u0b4c"),
  (0xbbe, "\u0bc6\u0bca\u0bc7\u0bcb"),
  (0xbd7, "ஒஔ\u0bc6\u0bcc"),
  (0xc56, "\u0c46\u0c48"),
  (0xcc2, "\u0cc6\u0cca"),
  (0xcd5, "\u0cbf\u0cc0\u0cc6\u0cc7\u0cca\u0ccb"),
  (0xcd6, "\u0cc6\u0cc8"),
  (0xd3e, "\u0d46\u0d4a\u0d47\u0d4b"),
  (0xd57, "\u0d46\u0d4c"),
  (0xdca, "\u0dd9\u0dda\u0ddc\u0ddd"),
  (0xdcf, "\u0dd9\u0ddc"),
  (0xddf, "\u0dd9\u0dde"),
  (0x102e, "ဥဦ"),
  (0x1b35, "ᬅᬆᬇᬈᬉᬊᬋᬌᬍᬎᬑᬒ\u1b3a\u1b3b\u1b3c\u1b3d\u1b3e\u1b40\u1b3f\u1b41"),
  (0x1b35, "\u1b42\u1b43"),
  (0x3099, "うゔかがきぎくぐけげこごさざしじすずせぜそぞただちぢつづてでとどはばひびふぶへべ"),
  (0x3099, "ほぼゝゞウヴカガキギクグケゲコゴサザシジスズセゼソゾタダチヂツヅテデトドハバヒビ"),
  (0x3099, "フブヘベホボワヷヰヸヱヹヲヺヽヾ"),
  (0x309a, "はぱひぴふぷへぺほぽハパヒピフプヘペホポ"),
  (0x110ba, "𑂙𑂚𑂛𑂜𑂥𑂫"),
  (0x11127, "𑄱𑄮𑄲𑄯"),
  (0x1133e, "𑍇𑍋"),
  (0x11357, "𑍇𑍌"),
  (0x113b8, "𑏅𑎸"),
  (0x113bb, "𑎄𑎅"),
  (0x113c2, "𑎋𑎎𑏅𑏂"),
  (0x113c9, "𑎂𑎃𑎐𑎑𑏅𑏉"),
  (0x114b0, "𑒹𑒼"),
  (0x114ba, "𑒹𑒻"),
  (0x114bd, "𑒹𑒾"),
  (0x115af, "𑖸𑖺𑖹𑖻"),
  (0x11930, "𑤵𑤸"),
  (0x1611e, "𖄡𖄞"),
  (0x1611f, "𖄦𖄡𖄦𖄢𖄧𖄩𖄤"),
  (0x16120, "𖄨𖄡𖄨"),
  (0x16129, "𖄡𖄩"),
  (0x16d67, "𖵣𖵪𖵨𖵩𖵪")]

/-- A character and the two that it is composed of. -/
structure Composed where
  whole : Char
  first : Char
  second : Char

def ofRow (second : Char) : List Char → List Composed
  | first :: whole :: rest => ⟨whole, first, second⟩ :: ofRow second rest
  | _ => []

def table : List Composed :=
  rows.flatMap fun (second, row) => ofRow (Char.ofNat second) row.toList

/-! ## Syllables of the Korean script -/

def syllableBase : Nat := 0xAC00
def leadBase : Nat := 0x1100
def vowelBase : Nat := 0x1161
/-- The code point before the first trailing consonant. -/
def trailBase : Nat := 0x11A7

def composeSyllable? (first second : Char) : Option Char :=
  let lead := first.toNat - leadBase
  let vowel := second.toNat - vowelBase
  let syllable := first.toNat - syllableBase
  let trail := second.toNat - trailBase
  if leadBase ≤ first.toNat ∧ lead < 19 ∧ vowelBase ≤ second.toNat ∧ vowel < 21 then
    some (Char.ofNat (syllableBase + (lead * 21 + vowel) * 28))
  else if syllableBase ≤ first.toNat ∧ syllable < 11172 ∧ syllable % 28 = 0 ∧
      trailBase < second.toNat ∧ trail < 28 then
    some (Char.ofNat (first.toNat + trail))
  else none

def splitSyllable? (whole : Char) : Option (Char × Char) :=
  let syllable := whole.toNat - syllableBase
  if syllableBase ≤ whole.toNat ∧ syllable < 11172 then
    if syllable % 28 = 0 then
      some (Char.ofNat (leadBase + syllable / 588), Char.ofNat (vowelBase + syllable / 28 % 21))
    else some (Char.ofNat (whole.toNat - syllable % 28), Char.ofNat (trailBase + syllable % 28))
  else none

/-! ## Taking apart and putting together -/

def compose? (first second : Char) : Option Char :=
  (composeSyllable? first second).or
    ((table.find? fun entry => entry.first == first && entry.second == second).map (·.whole))

def split? (whole : Char) : Option (Char × Char) :=
  (splitSyllable? whole).or
    ((table.find? fun entry => entry.whole == whole).map fun entry => (entry.first, entry.second))

/-- A character taken apart as often as `depth` allows. -/
def parts : (depth : Nat) → Char → List Char
  | 0, c => [c]
  | depth + 1, c =>
    match split? c with
    | some (first, second) => parts depth first ++ [second]
    | none => [c]

/-- Puts a character in front of a text whose marks are in order. -/
def insertMark (c : Char) : List Char → List Char
  | [] => [c]
  | next :: rest =>
    let rank := Marks.combiningClass next
    if rank ≠ 0 ∧ rank < Marks.combiningClass c then next :: insertMark c rest
    else c :: next :: rest

def sortMarks (text : List Char) : List Char :=
  text.foldr insertMark []

/-- A text that is being put together: what is done and the marks after the last letter
are kept last first. -/
structure Progress where
  done : List Char
  letter? : Option Char
  marks : List Char

namespace Progress

def text (progress : Progress) : List Char :=
  (progress.marks ++ progress.letter?.toList ++ progress.done).reverse

def reaches (progress : Progress) (c : Char) : Bool :=
  match progress.marks with
  | [] => true
  | mark :: _ => Marks.combiningClass mark < Marks.combiningClass c

def push (progress : Progress) (c : Char) : Progress :=
  let whole? :=
    if progress.reaches c then progress.letter?.bind (compose? · c) else none
  match whole? with
  | some whole => { progress with letter? := some whole }
  | none =>
    if Marks.combiningClass c = 0 then
      ⟨progress.marks ++ progress.letter?.toList ++ progress.done, some c, []⟩
    else { progress with marks := c :: progress.marks }

end Progress

/-- The composed form of a text. No character is composed of more than four. -/
def compose (text : List Char) : List Char :=
  ((sortMarks (text.flatMap (parts 4))).foldl Progress.push ⟨[], none, []⟩).text

end ChallengeGame.Domain.Composition
