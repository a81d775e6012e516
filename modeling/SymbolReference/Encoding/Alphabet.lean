import SymbolReference.Encoding.Table

namespace SymbolReference.Encoding

def iso8859Part2 : CharTable where
  stretches := #[
    (0xA0, "\u00a0Ą˘Ł¤ĽŚ§¨ŠŞŤŹ\u00adŽŻ°ą˛ł´ľśˇ¸šşťź˝žż"),
    (0xC0, "ŔÁÂĂÄĹĆÇČÉĘËĚÍÎĎĐŃŇÓÔŐÖ×ŘŮÚŰÜÝŢß"), (0xE0, "ŕáâăäĺćçčéęëěíîďđńňóôőö÷řůúűüýţ˙")]

def iso8859Part3 : CharTable where
  stretches := #[
    (0xA0, "\u00a0Ħ˘£¤"), (0xA6, "Ĥ§¨İŞĞĴ\u00ad"), (0xAF, "Ż°ħ²³´µĥ·¸ışğĵ½"), (0xBF, "żÀÁÂ"),
    (0xC4, "ÄĊĈÇÈÉÊËÌÍÎÏ"), (0xD1, "ÑÒÓÔĠÖ×ĜÙÚÛÜŬŜßàáâ"), (0xE4, "äċĉçèéêëìíîï"),
    (0xF1, "ñòóôġö÷ĝùúûüŭŝ˙")]

def iso8859Part4 : CharTable where
  stretches := #[
    (0xA0, "\u00a0ĄĸŖ¤ĨĻ§¨ŠĒĢŦ\u00adŽ¯°ą˛ŗ´ĩļˇ¸šēģŧŊžŋ"),
    (0xC0, "ĀÁÂÃÄÅÆĮČÉĘËĖÍÎĪĐŅŌĶÔÕÖ×ØŲÚÛÜŨŪß"), (0xE0, "āáâãäåæįčéęëėíîīđņōķôõö÷øųúûüũū˙")]

def iso8859Part5 : CharTable where
  stretches := #[
    (0xA0, "\u00a0ЁЂЃЄЅІЇЈЉЊЋЌ\u00adЎЏАБВГДЕЖЗИЙКЛМНОП"),
    (0xC0, "РСТУФХЦЧШЩЪЫЬЭЮЯабвгдежзийклмноп"), (0xE0, "рстуфхцчшщъыьэюя№ёђѓєѕіїјљњћќ§ўџ")]

def iso8859Part6 : CharTable where
  stretches := #[
    (0xA0, "\u00a0"), (0xA4, "¤"), (0xAC, "\u060c\u00ad"), (0xBB, "\u061b"), (0xBF, "\u061f"),
    (0xC1, "\u0621\u0622\u0623\u0624\u0625\u0626\u0627\u0628\u0629\u062a\u062b\u062c\u062d"),
    (0xCE, "\u062e\u062f\u0630\u0631\u0632\u0633\u0634\u0635\u0636\u0637\u0638\u0639\u063a"),
    (0xE0, "\u0640\u0641\u0642\u0643\u0644\u0645\u0646\u0647\u0648\u0649\u064a\u064b\u064c"),
    (0xED, "\u064d\u064e\u064f\u0650\u0651\u0652")]

def iso8859Part7 : CharTable where
  stretches := #[
    (0xA0, "\u00a0‘’£€₯¦§¨©ͺ«¬\u00ad"), (0xAF, "―°±²³΄΅Ά·ΈΉΊ»Ό½ΎΏΐΑΒΓΔΕΖΗΘΙΚΛΜΝΞ"), (0xCF, "ΟΠΡ"),
    (0xD3, "ΣΤΥΦΧΨΩΪΫάέήίΰαβγδεζηθικλμνξοπρς"), (0xF3, "στυφχψωϊϋόύώ")]

def iso8859Part8 : CharTable where
  stretches := #[
    (0xA0, "\u00a0"), (0xA2, "¢£¤¥¦§¨©×«¬\u00ad®¯°±²³´µ¶·¸¹÷»¼½¾"),
    (0xDF, "‗\u05d0\u05d1\u05d2\u05d3\u05d4\u05d5\u05d6\u05d7\u05d8\u05d9\u05da\u05db"),
    (0xEC, "\u05dc\u05dd\u05de\u05df\u05e0\u05e1\u05e2\u05e3\u05e4\u05e5\u05e6\u05e7\u05e8"),
    (0xF9, "\u05e9\u05ea"), (0xFD, "\u200e\u200f")]

def iso8859Part9 : CharTable where
  stretches := #[
    (0xA0, "\u00a0¡¢£¤¥¦§¨©ª«¬\u00ad®¯°±²³´µ¶·¸¹º»¼½¾¿"),
    (0xC0, "ÀÁÂÃÄÅÆÇÈÉÊËÌÍÎÏĞÑÒÓÔÕÖ×ØÙÚÛÜİŞß"), (0xE0, "àáâãäåæçèéêëìíîïğñòóôõö÷øùúûüışÿ")]

def iso8859Part10 : CharTable where
  stretches := #[
    (0xA0, "\u00a0ĄĒĢĪĨĶ§ĻĐŠŦŽ\u00adŪŊ°ąēģīĩķ·ļđšŧž―ūŋ"),
    (0xC0, "ĀÁÂÃÄÅÆĮČÉĘËĖÍÎÏÐŅŌÓÔÕÖŨØŲÚÛÜÝÞß"), (0xE0, "āáâãäåæįčéęëėíîïðņōóôõöũøųúûüýþĸ")]

def iso8859Part11 : CharTable where
  stretches := #[
    (0xA0, "\u00a0กขฃคฅฆงจฉชซฌญฎฏฐฑฒณดตถทธนบปผฝพฟ"),
    (0xC0, "ภมยรฤลฦวศษสหฬอฮฯะ\u0e31าำ\u0e34\u0e35\u0e36\u0e37\u0e38\u0e39\u0e3a"),
    (0xDF, "฿เแโใไๅๆ\u0e47\u0e48\u0e49\u0e4a\u0e4b\u0e4c\u0e4d\u0e4e๏๐๑๒๓๔๕๖๗๘๙๚๛")]

def iso8859Part13 : CharTable where
  stretches := #[
    (0xA0, "\u00a0”¢£¤„¦§Ø©Ŗ«¬\u00ad®Æ°±²³“µ¶·ø¹ŗ»¼½¾æ"),
    (0xC0, "ĄĮĀĆÄÅĘĒČÉŹĖĢĶĪĻŠŃŅÓŌÕÖ×ŲŁŚŪÜŻŽß"), (0xE0, "ąįāćäåęēčéźėģķīļšńņóōõö÷ųłśūüżž’")]

def iso8859Part14 : CharTable where
  stretches := #[
    (0xA0, "\u00a0Ḃḃ£ĊċḊ§Ẁ©ẂḋỲ\u00ad®ŸḞḟĠġṀṁ¶ṖẁṗẃṠỳẄẅṡ"),
    (0xC0, "ÀÁÂÃÄÅÆÇÈÉÊËÌÍÎÏŴÑÒÓÔÕÖṪØÙÚÛÜÝŶß"), (0xE0, "àáâãäåæçèéêëìíîïŵñòóôõöṫøùúûüýŷÿ")]

def iso8859Part15 : CharTable where
  stretches := #[
    (0xA0, "\u00a0¡¢£€¥Š§š©ª«¬\u00ad®¯°±²³Žµ¶·ž¹º»ŒœŸ¿"),
    (0xC0, "ÀÁÂÃÄÅÆÇÈÉÊËÌÍÎÏÐÑÒÓÔÕÖ×ØÙÚÛÜÝÞß"), (0xE0, "àáâãäåæçèéêëìíîïðñòóôõö÷øùúûüýþÿ")]

def iso8859Part16 : CharTable where
  stretches := #[
    (0xA0, "\u00a0ĄąŁ€„Š§š©Ș«Ź\u00adźŻ°±ČłŽ”¶·žčș»ŒœŸż"),
    (0xC0, "ÀÁÂĂÄĆÆÇÈÉÊËÌÍÎÏĐŃÒÓÔŐÖŚŰÙÚÛÜĘȚß"), (0xE0, "àáâăäćæçèéêëìíîïđńòóôőöśűùúûüęțÿ")]

/-- The Thai alphabet TIS 620. -/
def tis620 : CharTable where
  stretches := #[
    (0xA1, "กขฃคฅฆงจฉชซฌญฎฏฐฑฒณดตถทธนบปผฝพฟภ"),
    (0xC1, "มยรฤลฦวศษสหฬอฮฯะ\u0e31าำ\u0e34\u0e35\u0e36\u0e37\u0e38\u0e39\u0e3a"),
    (0xDF, "฿เแโใไๅๆ\u0e47\u0e48\u0e49\u0e4a\u0e4b\u0e4c\u0e4d\u0e4e๏๐๑๒๓๔๕๖๗๘๙๚๛")]

def koi8R : CharTable where
  stretches := #[
    (0x80, "─│┌┐└┘├┤┬┴┼▀▄█▌▐░▒▓⌠■∙√≈≤≥\u00a0⌡°²·÷"), (0xA0, "═║╒ё╓╔╕╖╗╘╙╚╛╜╝╞╟╠╡Ё╢╣╤╥╦╧╨╩╪╫╬©"),
    (0xC0, "юабцдефгхийклмнопярстужвьызшэщчъ"), (0xE0, "ЮАБЦДЕФГХИЙКЛМНОПЯРСТУЖВЬЫЗШЭЩЧЪ")]

def koi8T : CharTable where
  stretches := #[
    (0x80, "қғ‚Ғ„…†‡"), (0x89, "‰ҳ‹ҲҷҶ"), (0x90, "Қ‘’“”•–—"), (0x99, "™"), (0x9B, "›"),
    (0xA1, "ӯӮё¤ӣ¦§"), (0xAB, "«¬\u00ad®"), (0xB0, "°±²Ё"), (0xB5, "Ӣ¶·"), (0xB9, "№"),
    (0xBB, "»"), (0xBF, "©юабцдефгхийклмнопярстужвьызшэщч"),
    (0xDF, "ъЮАБЦДЕФГХИЙКЛМНОПЯРСТУЖВЬЫЗШЭЩЧ"), (0xFF, "Ъ")]

def koi8U : CharTable where
  stretches := #[
    (0x80, "─│┌┐└┘├┤┬┴┼▀▄█▌▐░▒▓⌠■∙√≈≤≥\u00a0⌡°²·÷"), (0xA0, "═║╒ёє╔ії╗╘╙╚╛ґ╝╞╟╠╡ЁЄ╣ІЇ╦╧╨╩╪Ґ╬©"),
    (0xC0, "юабцдефгхийклмнопярстужвьызшэщчъ"), (0xE0, "ЮАБЦДЕФГХИЙКЛМНОПЯРСТУЖВЬЫЗШЭЩЧЪ")]

/-- The Kazakh alphabet KZ-1048. -/
def kz1048 : CharTable where
  stretches := #[
    (0x80, "ЂЃ‚ѓ„…†‡€‰Љ‹ЊҚҺЏђ‘’“”•–—"), (0x99, "™љ›њқһџ\u00a0ҰұӘ¤Ө¦§Ё©Ғ«¬\u00ad®Ү°±Ііөµ¶·ё"),
    (0xB9, "№ғ»әҢңүАБВГДЕЖЗИЙКЛМНОПРСТУФХЦЧШ"), (0xD9, "ЩЪЫЬЭЮЯабвгдежзийклмнопрстуфхцчш"),
    (0xF9, "щъыьэюя")]

/-- The Cyrillic alphabet PTCP154. -/
def ptcp154 : CharTable where
  stretches := #[
    (0x80, "ҖҒӮғ„…ҶҮҲүҠӢҢҚҺҸҗ‘’“”•–—ҳҷҡӣңқһҹ"), (0xA0, "\u00a0ЎўЈӨҘҰ§Ё©Ә«¬ӯ®Ҝ°ұІіҙө¶·ё№ә»јҪҫҝ"),
    (0xC0, "АБВГДЕЖЗИЙКЛМНОПРСТУФХЦЧШЩЪЫЬЭЮЯ"), (0xE0, "абвгдежзийклмнопрстуфхцчшщъыьэюя")]

def hpRoman8 : CharTable where
  stretches := #[
    (0xA0, "\u00a0ÀÂÈÊËÎÏ´ˋˆ¨˜ÙÛ₤¯Ýý°ÇçÑñ¡¿¤£¥§ƒ¢"), (0xC0, "âêôûáéóúàèòùäëöüÅîØÆåíøæÄìÖÜÉïßÔ"),
    (0xE0, "ÁÃãÐðÍÌÓÒÕõŠšÚŸÿÞþ·µ¶¾—¼½ªº«■»±")]

/-- The alphabet of Palm OS. -/
def palmos : CharTable where
  stretches := #[
    (0x80, "€\u0081‚ƒ„…†‡ˆ‰Š‹Œ♦♣♥♠‘’“”•–—˜™š\u009bœ\u009d\u009eŸ"),
    (0xA0, "\u00a0¡¢£¤¥¦§¨©ª«¬\u00ad®¯°±²³´µ¶·¸¹º»¼½¾¿"),
    (0xC0, "ÀÁÂÃÄÅÆÇÈÉÊËÌÍÎÏÐÑÒÓÔÕÖ×ØÙÚÛÜÝÞß"), (0xE0, "àáâãäåæçèéêëìíîïðñòóôõö÷øùúûüýþÿ")]

/-- The Arabic alphabet of the Macintosh. -/
def macArabic : CharTable where
  stretches := #[
    (0x80, "Ä\u00a0ÇÉÑÖÜáàâä\u06ba«çéèêëí…îïñó»ôö÷úùûü"),
    (0xA0, " !\"#$\u066a&'()*+\u060c-./\u0660\u0661\u0662\u0663\u0664\u0665\u0666\u0667"),
    (0xB8, "\u0668\u0669:\u061b<=>\u061f❊\u0621\u0622\u0623\u0624\u0625\u0626\u0627\u0628"),
    (0xC9, "\u0629\u062a\u062b\u062c\u062d\u062e\u062f\u0630\u0631\u0632\u0633\u0634\u0635"),
    (0xD6, "\u0636\u0637\u0638\u0639\u063a[\\]^_\u0640\u0641\u0642\u0643\u0644\u0645\u0646"),
    (0xE7, "\u0647\u0648\u0649\u064a\u064b\u064c\u064d\u064e\u064f\u0650\u0651\u0652\u067e"),
    (0xF4, "\u0679\u0686\u06d5\u06a4\u06af\u0688\u0691\x7b|\x7d\u0698\u06d2")]

/-- The Croatian alphabet of the Macintosh. -/
def macCroatian : CharTable where
  stretches := #[
    (0x80, "ÄÅÇÉÑÖÜáàâäãåçéèêëíìîïñóòôöõúùûü"), (0xA0, "†°¢£§•¶ß®Š™´¨≠ŽØ∞±≤≥∆µ∂∑∏š∫ªºΩžø"),
    (0xC0, "¿¡¬√ƒ≈Ć«Č…\u00a0ÀÃÕŒœĐ—“”‘’÷◊\uf8ff©⁄€‹›Æ»"),
    (0xE0, "–·‚„‰ÂćÁčÈÍÎÏÌÓÔđÒÚÛÙıˆ˜¯πË˚¸Êæˇ")]

/-- The Cyrillic alphabet of the Macintosh. -/
def macCyrillic : CharTable where
  stretches := #[
    (0x80, "АБВГДЕЖЗИЙКЛМНОПРСТУФХЦЧШЩЪЫЬЭЮЯ"), (0xA0, "†°Ґ£§•¶І®©™Ђђ≠Ѓѓ∞±≤≥іµґЈЄєЇїЉљЊњ"),
    (0xC0, "јЅ¬√ƒ≈∆«»…\u00a0ЋћЌќѕ–—“”‘’÷„ЎўЏџ№Ёёя"), (0xE0, "абвгдежзийклмнопрстуфхцчшщъыьэю€")]

/-- The Farsi alphabet of the Macintosh. -/
def macFarsi : CharTable where
  stretches := #[
    (0x80, "Ä\u00a0ÇÉÑÖÜáàâä\u06ba«çéèêëí…îïñó»ôö÷úùûü"),
    (0xA0, " !\"#$\u066a&'()*+\u060c-./\u06f0\u06f1\u06f2\u06f3\u06f4\u06f5\u06f6\u06f7"),
    (0xB8, "\u06f8\u06f9:\u061b<=>\u061f❊\u0621\u0622\u0623\u0624\u0625\u0626\u0627\u0628"),
    (0xC9, "\u0629\u062a\u062b\u062c\u062d\u062e\u062f\u0630\u0631\u0632\u0633\u0634\u0635"),
    (0xD6, "\u0636\u0637\u0638\u0639\u063a[\\]^_\u0640\u0641\u0642\u0643\u0644\u0645\u0646"),
    (0xE7, "\u0647\u0648\u0649\u064a\u064b\u064c\u064d\u064e\u064f\u0650\u0651\u0652\u067e"),
    (0xF4, "\u0679\u0686\u06d5\u06a4\u06af\u0688\u0691\x7b|\x7d\u0698\u06d2")]

/-- The Greek alphabet of the Macintosh. -/
def macGreek : CharTable where
  stretches := #[
    (0x80, "Ä¹²É³ÖÜ΅àâä΄¨çéèêë£™îï•½‰ôö¦€ùûü"), (0xA0, "†ΓΔΘΛΞΠß®©ΣΪ§≠°·Α±≤≥¥ΒΕΖΗΙΚΜΦΫΨΩ"),
    (0xC0, "άΝ¬ΟΡ≈Τ«»…\u00a0ΥΧΆΈœ–―“”‘’÷ΉΊΌΎέήίόΏ"),
    (0xE0, "ύαβψδεφγηιξκλμνοπώρστθωςχυζϊϋΐΰ\u00ad")]

/-- The Icelandic alphabet of the Macintosh. -/
def macIceland : CharTable where
  stretches := #[
    (0x80, "ÄÅÇÉÑÖÜáàâäãåçéèêëíìîïñóòôöõúùûü"), (0xA0, "Ý°¢£§•¶ß®©™´¨≠ÆØ∞±≤≥¥µ∂∑∏π∫ªºΩæø"),
    (0xC0, "¿¡¬√ƒ≈∆«»…\u00a0ÀÃÕŒœ–—“”‘’÷◊ÿŸ⁄€ÐðÞþ"),
    (0xE0, "ý·‚„‰ÂÊÁËÈÍÎÏÌÓÔ\uf8ffÒÚÛÙıˆ˜¯˘˙˚¸˝˛ˇ")]

/-- The Central European alphabet of the Macintosh. -/
def macLatin2 : CharTable where
  stretches := #[
    (0x80, "ÄĀāÉĄÖÜáąČäčĆćéŹźĎíďĒēĖóėôöõúĚěü"), (0xA0, "†°Ę£§•¶ß®©™ę¨≠ģĮįĪ≤≥īĶ∂∑łĻļĽľĹĺŅ"),
    (0xC0, "ņŃ¬√ńŇ∆«»…\u00a0ňŐÕőŌ–—“”‘’÷◊ōŔŕŘ‹›řŖ"), (0xE0, "ŗŠ‚„šŚśÁŤťÍŽžŪÓÔūŮÚůŰűŲųÝýķŻŁżĢˇ")]

/-- The Roman alphabet of the Macintosh. -/
def macRoman : CharTable where
  stretches := #[
    (0x80, "ÄÅÇÉÑÖÜáàâäãåçéèêëíìîïñóòôöõúùûü"), (0xA0, "†°¢£§•¶ß®©™´¨≠ÆØ∞±≤≥¥µ∂∑∏π∫ªºΩæø"),
    (0xC0, "¿¡¬√ƒ≈∆«»…\u00a0ÀÃÕŒœ–—“”‘’÷◊ÿŸ⁄€‹›ﬁﬂ"),
    (0xE0, "‡·‚„‰ÂÊÁËÈÍÎÏÌÓÔ\uf8ffÒÚÛÙıˆ˜¯˘˙˚¸˝˛ˇ")]

/-- The Romanian alphabet of the Macintosh. -/
def macRomanian : CharTable where
  stretches := #[
    (0x80, "ÄÅÇÉÑÖÜáàâäãåçéèêëíìîïñóòôöõúùûü"), (0xA0, "†°¢£§•¶ß®©™´¨≠ĂȘ∞±≤≥¥µ∂∑∏π∫ªºΩăș"),
    (0xC0, "¿¡¬√ƒ≈∆«»…\u00a0ÀÃÕŒœ–—“”‘’÷◊ÿŸ⁄€‹›Țț"),
    (0xE0, "‡·‚„‰ÂÊÁËÈÍÎÏÌÓÔ\uf8ffÒÚÛÙıˆ˜¯˘˙˚¸˝˛ˇ")]

/-- The Turkish alphabet of the Macintosh. -/
def macTurkish : CharTable where
  stretches := #[
    (0x80, "ÄÅÇÉÑÖÜáàâäãåçéèêëíìîïñóòôöõúùûü"), (0xA0, "†°¢£§•¶ß®©™´¨≠ÆØ∞±≤≥¥µ∂∑∏π∫ªºΩæø"),
    (0xC0, "¿¡¬√ƒ≈∆«»…\u00a0ÀÃÕŒœ–—“”‘’÷◊ÿŸĞğİıŞş"),
    (0xE0, "‡·‚„‰ÂÊÁËÈÍÎÏÌÓÔ\uf8ffÒÚÛÙ\uf8a0ˆ˜¯˘˙˚¸˝˛ˇ")]

end SymbolReference.Encoding
