import CodeHints.Unicode.Runs

/-!
# Scripts

The script of every code point (Unicode 15.0). A script is known by its place in the list of
names; the table alternates between that place and the length of a run.
-/

namespace CodeHints.Unicode.Script

/-- The names of each script, in lower case and without separators, short name first. -/
def names : List (List String) :=
  [["zyyy", "common"],
   ["latn", "latin"],
   ["bopo", "bopomofo"],
   ["zinh", "inherited", "qaai"],
   ["grek", "greek"],
   ["zzzz", "unknown"],
   ["copt", "coptic", "qaac"],
   ["cyrl", "cyrillic"],
   ["armn", "armenian"],
   ["hebr", "hebrew"],
   ["arab", "arabic"],
   ["syrc", "syriac"],
   ["thaa", "thaana"],
   ["nkoo", "nko"],
   ["samr", "samaritan"],
   ["mand", "mandaic"],
   ["deva", "devanagari"],
   ["beng", "bengali"],
   ["guru", "gurmukhi"],
   ["gujr", "gujarati"],
   ["orya", "oriya"],
   ["taml", "tamil"],
   ["telu", "telugu"],
   ["knda", "kannada"],
   ["mlym", "malayalam"],
   ["sinh", "sinhala"],
   ["thai", "thai"],
   ["laoo", "lao"],
   ["tibt", "tibetan"],
   ["mymr", "myanmar"],
   ["geor", "georgian"],
   ["hang", "hangul"],
   ["ethi", "ethiopic"],
   ["cher", "cherokee"],
   ["cans", "canadianaboriginal"],
   ["ogam", "ogham"],
   ["runr", "runic"],
   ["tglg", "tagalog"],
   ["hano", "hanunoo"],
   ["buhd", "buhid"],
   ["tagb", "tagbanwa"],
   ["khmr", "khmer"],
   ["mong", "mongolian"],
   ["limb", "limbu"],
   ["tale", "taile"],
   ["talu", "newtailue"],
   ["bugi", "buginese"],
   ["lana", "taitham"],
   ["bali", "balinese"],
   ["sund", "sundanese"],
   ["batk", "batak"],
   ["lepc", "lepcha"],
   ["olck", "olchiki"],
   ["brai", "braille"],
   ["glag", "glagolitic"],
   ["tfng", "tifinagh"],
   ["hani", "han"],
   ["hira", "hiragana"],
   ["kana", "katakana"],
   ["yiii", "yi"],
   ["lisu", "lisu"],
   ["vaii", "vai"],
   ["bamu", "bamum"],
   ["sylo", "sylotinagri"],
   ["phag", "phagspa"],
   ["saur", "saurashtra"],
   ["kali", "kayahli"],
   ["rjng", "rejang"],
   ["java", "javanese"],
   ["cham", "cham"],
   ["tavt", "taiviet"],
   ["mtei", "meeteimayek"],
   ["linb", "linearb"],
   ["lyci", "lycian"],
   ["cari", "carian"],
   ["ital", "olditalic"],
   ["goth", "gothic"],
   ["perm", "oldpermic"],
   ["ugar", "ugaritic"],
   ["xpeo", "oldpersian"],
   ["dsrt", "deseret"],
   ["shaw", "shavian"],
   ["osma", "osmanya"],
   ["osge", "osage"],
   ["elba", "elbasan"],
   ["aghb", "caucasianalbanian"],
   ["vith", "vithkuqi"],
   ["lina", "lineara"],
   ["cprt", "cypriot"],
   ["armi", "imperialaramaic"],
   ["palm", "palmyrene"],
   ["nbat", "nabataean"],
   ["hatr", "hatran"],
   ["phnx", "phoenician"],
   ["lydi", "lydian"],
   ["mero", "meroitichieroglyphs"],
   ["merc", "meroiticcursive"],
   ["khar", "kharoshthi"],
   ["sarb", "oldsoutharabian"],
   ["narb", "oldnortharabian"],
   ["mani", "manichaean"],
   ["avst", "avestan"],
   ["prti", "inscriptionalparthian"],
   ["phli", "inscriptionalpahlavi"],
   ["phlp", "psalterpahlavi"],
   ["orkh", "oldturkic"],
   ["hung", "oldhungarian"],
   ["rohg", "hanifirohingya"],
   ["yezi", "yezidi"],
   ["sogo", "oldsogdian"],
   ["sogd", "sogdian"],
   ["ougr", "olduyghur"],
   ["chrs", "chorasmian"],
   ["elym", "elymaic"],
   ["brah", "brahmi"],
   ["kthi", "kaithi"],
   ["sora", "sorasompeng"],
   ["cakm", "chakma"],
   ["mahj", "mahajani"],
   ["shrd", "sharada"],
   ["khoj", "khojki"],
   ["mult", "multani"],
   ["sind", "khudawadi"],
   ["gran", "grantha"],
   ["newa", "newa"],
   ["tirh", "tirhuta"],
   ["sidd", "siddham"],
   ["modi", "modi"],
   ["takr", "takri"],
   ["ahom", "ahom"],
   ["dogr", "dogra"],
   ["wara", "warangciti"],
   ["diak", "divesakuru"],
   ["nand", "nandinagari"],
   ["zanb", "zanabazarsquare"],
   ["soyo", "soyombo"],
   ["pauc", "paucinhau"],
   ["bhks", "bhaiksuki"],
   ["marc", "marchen"],
   ["gonm", "masaramgondi"],
   ["gong", "gunjalagondi"],
   ["maka", "makasar"],
   ["kawi", "kawi"],
   ["xsux", "cuneiform"],
   ["cpmn", "cyprominoan"],
   ["egyp", "egyptianhieroglyphs"],
   ["hluw", "anatolianhieroglyphs"],
   ["mroo", "mro"],
   ["tnsa", "tangsa"],
   ["bass", "bassavah"],
   ["hmng", "pahawhhmong"],
   ["medf", "medefaidrin"],
   ["plrd", "miao"],
   ["tang", "tangut"],
   ["nshu", "nushu"],
   ["kits", "khitansmallscript"],
   ["dupl", "duployan"],
   ["sgnw", "signwriting"],
   ["hmnp", "nyiakengpuachuehmong"],
   ["toto", "toto"],
   ["wcho", "wancho"],
   ["nagm", "nagmundari"],
   ["mend", "mendekikakui"],
   ["adlm", "adlam"]]

/-- Script and length of every run, in the order of code points. -/
def table : String :=
  String.join [
    "0 1t 1 q 0 6 1 q 0 1b 1 1 0 f 1 1 0 5 1 n 0 1 1 v 0 1 1 ch 0 13 1 5 0 5 2 2 0 k 3 34 4 4 0 1 ",
    "4 3 5 2 4 4 0 1 4 1 5 4 4 1 0 1 4 1 0 1 4 3 5 1 4 1 5 1 4 k 5 1 4 1r 6 e 4 g 7 3p 3 2 7 4p 5 ",
    "1 8 12 5 2 8 1e 5 2 8 3 5 1 9 1j 5 8 9 r 5 4 9 6 5 b a 5 0 1 a 6 0 1 a e 0 1 a 3 0 1 a w 0 1 ",
    "a a 3 b a q 3 1 a 30 0 1 a y b e 5 1 b 1o 5 2 b 3 a 1c c 1e 5 e d 1n 5 2 d 3 e 1a 5 2 e f 5 ",
    "1 f s 5 2 f 1 5 1 b b 5 5 a v 5 1 a 2 5 6 a 22 0 1 a t g 29 3 4 g f 0 2 g q h 4 5 1 h 8 5 2 ",
    "h 2 5 2 h m 5 1 h 7 5 1 h 1 5 3 h 4 5 2 h 9 5 2 h 2 5 2 h 4 5 8 h 1 5 4 h 2 5 1 h 5 5 2 h p ",
    "5 2 i 3 5 1 i 6 5 4 i 2 5 2 i m 5 1 i 7 5 1 i 2 5 1 i 2 5 1 i 2 5 2 i 1 5 1 i 5 5 4 i 2 5 2 ",
    "i 3 5 3 i 1 5 7 i 4 5 1 i 1 5 7 i h 5 a j 3 5 1 j 9 5 1 j 3 5 1 j m 5 1 j 7 5 1 j 2 5 1 j 5 ",
    "5 2 j a 5 1 j 3 5 1 j 3 5 2 j 1 5 f j 4 5 2 j c 5 7 j 7 5 1 k 3 5 1 k 8 5 2 k 2 5 2 k m 5 1 ",
    "k 7 5 1 k 2 5 1 k 5 5 2 k 9 5 2 k 2 5 2 k 3 5 7 k 3 5 4 k 2 5 1 k 5 5 2 k i 5 a l 2 5 1 l 6 ",
    "5 3 l 3 5 1 l 4 5 3 l 2 5 1 l 1 5 1 l 2 5 3 l 2 5 3 l 3 5 3 l c 5 4 l 5 5 3 l 3 5 1 l 4 5 2 ",
    "l 1 5 6 l 1 5 e l l 5 5 m d 5 1 m 3 5 1 m n 5 1 m g 5 2 m 9 5 1 m 3 5 1 m 4 5 7 m 2 5 1 m 3 ",
    "5 2 m 1 5 2 m 4 5 2 m a 5 7 m 9 n d 5 1 n 3 5 1 n n 5 1 n a 5 1 n 5 5 2 n 9 5 1 n 3 5 1 n 4 ",
    "5 7 n 2 5 6 n 2 5 1 n 4 5 2 n a 5 1 n 3 5 c o d 5 1 o 3 5 1 o 1f 5 1 o 3 5 1 o 6 5 4 o g 5 2 ",
    "o q 5 1 p 3 5 1 p i 5 3 p o 5 1 p 9 5 1 p 1 5 2 p 7 5 3 p 1 5 4 p 6 5 1 p 1 5 1 p 8 5 6 p a ",
    "5 2 p 3 5 c q 1m 5 4 0 1 q s 5 11 r 2 5 1 r 1 5 1 r 5 5 1 r o 5 1 r 1 5 1 r n 5 2 r 5 5 1 r ",
    "1 5 1 r 7 5 1 r a 5 2 r 4 5 w s 20 5 1 s 10 5 4 s 13 5 1 s 10 5 1 s f 5 1 s 7 0 4 s 2 5 11 t ",
    "4g u 12 5 1 u 1 5 5 u 1 5 2 u 17 0 1 u 4 v 74 w 21 5 1 w 4 5 2 w 7 5 1 w 1 5 1 w 4 5 2 w 15 ",
    "5 1 w 4 5 2 w x 5 1 w 4 5 2 w 7 5 1 w 1 5 1 w 4 5 2 w f 5 1 w 1l 5 1 w 4 5 2 w 1v 5 2 w w 5 ",
    "3 w q 5 6 x 2e 5 2 x 6 5 2 y hs z t 5 3 10 23 0 3 10 b 5 7 11 m 5 9 11 1 12 l 0 2 5 9 13 k 5 ",
    "c 14 d 5 1 14 3 5 1 14 2 5 c 15 2m 5 2 15 a 5 6 15 a 5 6 16 2 0 2 16 1 0 1 16 k 5 6 16 2h 5 ",
    "7 16 17 5 5 y 1y 5 a 17 v 5 1 17 c 5 4 17 c 5 4 17 1 5 3 17 c 18 u 5 2 18 5 5 b 19 18 5 4 19 ",
    "q 5 6 19 b 5 3 19 2 15 w 1a s 5 2 1a 2 1b 1r 5 1 1b t 5 2 1b b 5 6 1b a 5 6 1b e 5 2 3 v 5 1",
    "d 1c 25 5 3 1c 1b 5 1 1d 1s 1e 1g 5 8 1e 4 1f 1k 5 3 1f f 5 3 1f 3 1g 1c 7 9 5 7 u 17 5 2 u ",
    "3 1d 8 5 8 3 3 0 1 3 d 0 1 3 7 0 4 3 1 0 6 3 1 0 3 3 2 0 1 5 5 1 12 4 5 7 1 1 1d 4 5 1 4 4 5 ",
    "1 d 7 1 1 1y 4 1 3 1s 1 74 4 m 5 2 4 6 5 2 4 12 5 2 4 6 5 2 4 8 5 1 4 1 5 1 4 1 5 1 4 1 5 1 ",
    "4 v 5 2 4 1h 5 1 4 f 5 1 4 e 5 2 4 6 5 1 4 j 5 2 4 3 5 1 4 9 5 1 0 c 3 2 0 2f 5 1 0 b 1 1 5 ",
    "2 0 b 1 1 0 f 5 1 1 d 5 3 0 x 5 f 3 x 5 f 0 12 4 1 0 3 1 2 0 6 1 1 0 r 1 1 0 h 1 15 0 3 5 4 ",
    "0 if 5 p 0 b 5 l 0 ps 1h 74 0 hg 5 2 0 w 5 1 0 2x 1i 2o 1 w 6 38 5 5 6 7 u 12 5 1 u 1 5 5 u ",
    "1 5 2 1j 1k 5 7 1j 2 5 e 1j 1 w n 5 9 w 7 5 1 w 7 5 1 w 7 5 1 w 7 5 1 w 7 5 1 w 7 5 1 w 7 5 ",
    "1 w 7 5 1 7 w 0 2m 5 y 1k q 5 1 1k 2h 5 c 1k 5y 5 q 0 c 5 4 0 5 1k 1 0 1 1k 1 0 p 1k 9 3 4 v ",
    "2 0 8 1k 4 0 4 5 1 1l 2e 5 2 3 2 0 2 1l 3 0 1 1m 2i 0 2 1m 3 5 5 2 17 5 1 v 2m 5 1 0 g 2 w 0 ",
    "10 5 c 1m g v v 5 1 0 1s v v 0 29 1m 1b 0 1 1m 2g 0 4o 1k 534 0 1s 1k g74 1n wd 5 3 1n 1j 5 ",
    "9 1o 1c 1p 8c 5 k 7 2o 1q 2g 5 8 0 y 1 2u 0 3 1 1s 5 5 1 2 5 1 1 1 5 1 1 5 5 o 1 e 1r 19 5 3 ",
    "0 a 5 6 1s 1k 5 8 1t 1y 5 8 1t c 5 6 g w 1u 1a 0 1 1u 1 1v 10 5 b 1v 1 v t 5 3 1w 26 5 1 0 1 ",
    "1w a 5 4 1w 2 t v 5 1 1x 1j 5 9 1x e 5 2 1x a 5 2 1x 4 t w 1y 1v 5 o 1y 5 1z n 5 a w 6 5 2 w ",
    "6 5 2 w 6 5 9 w 7 5 1 w 7 5 1 1 17 0 1 1 9 4 1 1 4 0 2 5 4 x 28 1z 1a 5 2 1z a 5 6 v 8mc 5 c ",
    "v n 5 4 v 1d 5 6is 1k a6 5 2 1k 2y 5 12 1 7 5 c 8 5 5 5 9 q 5 1 9 5 5 1 9 1 5 1 9 2 5 1 9 2 ",
    "5 1 9 a a 37 5 g a a3 0 2 a 28 5 2 a 1i 5 7 a 1 5 w a g 3 g 0 a 5 6 3 e 7 2 0 z 5 1 0 j 5 1 ",
    "0 4 5 4 a 5 5 1 a 3r 5 2 0 1 5 1 0 w 1 q 0 6 1 q 0 b 1m a 0 1 1m 19 0 2 v v 5 3 v 6 5 2 v 6 ",
    "5 2 v 6 5 2 v 3 5 3 0 7 5 1 0 7 5 a 0 5 5 2 20 c 5 1 20 q 5 1 20 j 5 1 20 2 5 1 20 f 5 2 20 ",
    "e 5 y 20 3f 5 5 0 3 5 4 0 19 5 3 0 9 4 27 5 1 0 d 5 3 4 1 5 1b 0 19 3 1 5 3m 21 t 5 3 22 1d ",
    "5 f 3 1 0 r 5 4 23 10 5 9 23 3 24 r 5 5 25 17 5 5 26 u 5 1 26 1 27 10 5 4 27 e 5 16 28 28 29 ",
    "1c 2a u 5 2 2a a 5 6 2b 10 5 4 2b 10 5 4 2c 14 5 8 2d 1g 5 b 2d 1 2e b 5 1 2e f 5 1 2e 7 5 1 ",
    "2e 2 5 1 2e b 5 1 2e f 5 1 2e 7 5 1 2e 2 5 1v 2f 8n 5 9 2f m 5 a 2f 8 5 o 1 6 5 1 1 16 5 1 1 ",
    "9 5 1x 2g 6 5 2 2g 1 5 1 2g 18 5 1 2g 2 5 3 2g 1 5 2 2g 1 2h m 5 1 2h 9 2i w 2j v 5 8 2j 9 5 ",
    "1c 2k j 5 1 2k 2 5 5 2k 5 2l s 5 3 2l 1 2m q 5 5 2m 1 5 1s 2n w 2o o 5 4 2o k 5 2 2o 1a 2p 4 ",
    "5 1 2p 2 5 5 2p 8 5 1 2p 3 5 1 2p t 5 2 2p 3 5 4 2p a 5 7 2p 9 5 7 2q w 2r w 5 w 2s 13 5 4 2",
    "s c 5 9 2t 1i 5 3 2t 7 2u m 5 2 2u 8 2v j 5 5 2v 8 2w i 5 7 2w 4 5 c 2w 7 5 28 2x 21 5 1j 2y ",
    "1f 5 d 2y 1f 5 7 2y 6 2z 14 5 8 2z a 5 86 a v 5 1 30 16 5 1 30 3 5 2 30 2 5 23 a 3 31 14 5 8 ",
    "32 16 5 m 33 q 5 12 34 s 5 k 35 n 5 9 36 26 5 4 36 10 5 9 36 1 37 1v 5 a 37 1 5 2 38 p 5 7 3",
    "8 a 5 6 39 1h 5 1 39 i 5 8 3a 13 5 9 3b 2o 5 1 p k 5 b 3c i 5 1 3c 1b 5 1q 3d 7 5 1 3d 1 5 1 ",
    "3d 4 5 1 3d f 5 1 3d b 5 6 3e 1n 5 5 3e a 5 6 3f 4 5 1 3f 8 5 2 3f 2 5 2 3f m 5 1 3f 7 5 1 3",
    "f 2 5 1 3f 5 5 1 3 1 3f 9 5 2 3f 2 5 2 3f 3 5 2 3f 1 5 6 3f 1 5 5 3f 7 5 2 3f 7 5 3 3f 5 5 3",
    "v 3g 2k 5 1 3g 5 5 u 3h 20 5 8 3h a 5 4m 3i 1i 5 2 3i 12 5 y 3j 1x 5 b 3j a 5 6 16 d 5 j 3k ",
    "1m 5 6 3k a 5 1i 3l r 5 2 3l f 5 4 3l n 5 55 3m 1o 5 2s 3n 2b 5 c 3n 1 3o 7 5 2 3o 1 5 2 3o ",
    "8 5 1 3o 2 5 1 3o u 5 1 3o 2 5 2 3o c 5 9 3o a 5 1y 3p 8 5 2 3p 1a 5 2 3p b 5 r 3q 20 5 8 3r ",
    "2b 5 d y g 3s 1l 5 7 g a 5 6u 3t 9 5 1 3t 19 5 1 3t e 5 a 3t t 5 3 3u w 5 2 3u m 5 1 3u e 5 ",
    "21 3v 7 5 1 3v 2 5 1 3v 18 5 3 3v 1 5 1 3v 2 5 1 3v 9 5 8 3v a 5 6 3w 6 5 1 3w 2 5 1 3w 11 5 ",
    "1 3w 2 5 1 3w 6 5 7 3w a 5 8m 3x p 5 7 3y h 5 1 3y 15 5 3 3y s 5 2e 1o 1 5 f l 1e 5 d l 1 3z ",
    "pm 5 2u 3z 33 5 1 3z 5 5 b 3z 5g 5 218 40 2r 5 d 41 uu 5 33e 42 g7 5 6nt 1q ft 5 7 43 v 5 1 ",
    "43 a 5 4 43 2 44 27 5 1 44 a 5 6 45 u 5 2 45 6 5 a 46 1y 5 a 46 a 5 1 46 7 5 1 46 l 5 5 46 j ",
    "5 j4 47 2j 5 2t 48 23 5 4 48 1l 5 7 48 h 5 1s 49 1 4a 1 1k 2 4b 1 5 b 1k 2 5 e 49 4qg 5 8 49 ",
    "lc 4b d2 5 16 49 9 5 6w7 1m 4 5 1 1m 7 5 1 1m 2 5 1 1m 1 1l 7z 1m 3 5 f 1l 1 5 t 1l 3 5 2 1m ",
    "1 5 e 1m 4 5 8 4a b0 5 1s4 4c 2z 5 5 4c d 5 3 4c 9 5 7 4c a 5 2 4c 4 0 4 5 3mk 3 1a 5 2 3 n ",
    "5 9 0 38 5 1o 0 6u 5 a 0 13 5 2 0 1q 3 3 0 h 3 8 0 2 3 7 0 u 3 4 0 1p 5 l 4 1y 5 3e 0 k 5 c ",
    "0 k 5 c 0 2f 5 9 0 p 5 3r 0 2d 5 1 0 1z 5 1 0 2 5 2 0 1 5 2 0 2 5 2 0 4 5 1 0 c 5 1 0 1 5 1 ",
    "0 7 5 1 0 1t 5 1 0 4 5 2 0 8 5 1 0 7 5 1 0 s 5 1 0 4 5 1 0 5 5 1 0 1 5 3 0 7 5 1 0 9g 5 2 0 ",
    "84 5 2 0 1e 4d i4 5 f 4d 5 5 1 4d f 5 uo 1 v 5 6 1 6 5 5x 1i 7 5 1 1i h 5 2 1i 7 5 1 1i 2 5 ",
    "1 1i 5 5 5 7 1q 5 x 7 1 5 34 4e 19 5 3 4e e 5 2 4e a 5 4 4e 2 5 8w 4f v 5 h 4g 1m 5 5 4g 1 5 ",
    "cw 4h 16 5 km w 7 5 1 w 4 5 1 w 2 5 1 w f 5 1 4i 5h 5 2 4i g 5 15 4j 24 5 4 4j a 5 4 4j 2 5 ",
    "lt 0 1w 5 24 0 1p 5 5e a 4 5 1 a r 5 1 a 2 5 1 a 1 5 2 a 1 5 1 a a 5 1 a 4 5 1 a 1 5 1 a 1 5 ",
    "6 a 1 5 4 a 1 5 1 a 1 5 1 a 1 5 1 a 3 5 1 a 2 5 1 a 1 5 2 a 1 5 1 a 1 5 1 a 1 5 1 a 1 5 1 a ",
    "1 5 1 a 2 5 1 a 1 5 2 a 4 5 1 a 7 5 1 a 4 5 1 a 4 5 1 a 1 5 1 a a 5 1 a h 5 5 a 3 5 1 a 5 5 ",
    "1 a h 5 1g a 2 5 7i 0 18 5 4 0 2s 5 c 0 f 5 2 0 f 5 1 0 f 5 1 0 11 5 a 0 4u 5 1k 0 q 1l 1 0 ",
    "2 5 d 0 18 5 4 0 9 5 7 0 2 5 e 0 6 5 4a 0 rc 5 4 0 h 5 3 0 d 5 3 0 3b 5 4 0 2n 5 6 0 c 5 4 0 ",
    "1 5 f 0 c 5 4 0 1k 5 8 0 a 5 6 0 14 5 8 0 u 5 2 0 2 5 26 0 9g 5 c 0 e 5 2 0 d 5 3 0 9 5 7 0 ",
    "1a 5 1 0 7 5 8 0 e 5 4 0 9 5 7 0 9 5 7 0 43 5 1 0 1j 5 11 0 a 5 sm 1k wyo 5 w 1k 37e 5 6 1k ",
    "66 5 2 1k 4g2 5 e 1k 5rl 5 2e7 1k f2 5 15u 1k 3t7 5 5 1k 38g 5 f975 0 1 5 u 0 2o 5 3k 3 6o 5 ",
    "47bk"]

/-- Pairs of a script and the first code point after its run. -/
def pair : List Nat → Nat → List (Nat × Nat)
  | script :: length :: rest, start => (script, start + length) :: pair rest (start + length)
  | _, _ => []

/-- The script of every run together with the first code point after it. -/
def runs : List (Nat × Nat) := pair (numbers36 table.toList 0) 0

/-- The place of the script of a code point in the list of names. -/
def ofCode (c : Nat) : Nat :=
  ((runs.find? fun run ↦ c < run.2).map (·.1)).getD 0

def named? (name : String) : Option Nat := names.findIdx? (·.contains name)

end CodeHints.Unicode.Script
