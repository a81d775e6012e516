import SymbolReference.Encoding.Table

namespace SymbolReference.Encoding

def codePage037 : CharTable where
  stretches := #[
    (0x00, "\x00\x01\x02\x03\u009c\x09\u0086\x7f\u0097\u008d\u008e\x0b\x0c\x0d\x0e\x0f\x10"),
    (0x11, "\x11\x12\x13\u009d\u0085\x08\u0087\x18\x19\u0092\u008f\x1c\x1d\x1e\x1f\u0080"),
    (0x21, "\u0081\u0082\u0083\u0084\x0a\x17\x1b\u0088\u0089\u008a\u008b\u008c\x05\x06\x07"),
    (0x30, "\u0090\u0091\x16\u0093\u0094\u0095\u0096\x04\u0098\u0099\u009a\u009b\x14\x15"),
    (0x3E, "\u009e\x1a \u00a0âäàáãåçñ¢.<(+|&éêëèíîïìß!$*)"),
    (0x5E, ";¬-/ÂÄÀÁÃÅÇÑ¦,%_>?øÉÊËÈÍÎÏÌ`:#@'"), (0x7E, "=\"Øabcdefghi«»ðýþ±°jklmnopqrªºæ¸"),
    (0x9E, "Æ¤µ~stuvwxyz¡¿ÐÝÞ®^£¥·©§¶¼½¾[]¯¨"),
    (0xBE, "´×\x7bABCDEFGHI\u00adôöòóõ\x7dJKLMNOPQR¹ûüù"),
    (0xDE, "úÿ\\÷STUVWXYZ²ÔÖÒÓÕ0123456789³ÛÜÙ"), (0xFE, "Ú\u009f")]

def codePage273 : CharTable where
  stretches := #[
    (0x00, "\x00\x01\x02\x03\u009c\x09\u0086\x7f\u0097\u008d\u008e\x0b\x0c\x0d\x0e\x0f\x10"),
    (0x11, "\x11\x12\x13\u009d\u0085\x08\u0087\x18\x19\u0092\u008f\x1c\x1d\x1e\x1f\u0080"),
    (0x21, "\u0081\u0082\u0083\u0084\x0a\x17\x1b\u0088\u0089\u008a\u008b\u008c\x05\x06\x07"),
    (0x30, "\u0090\u0091\x16\u0093\u0094\u0095\u0096\x04\u0098\u0099\u009a\u009b\x14\x15"),
    (0x3E, "\u009e\x1a \u00a0â\x7bàáãåçñÄ.<(+!&éêëèíîïì~Ü$*)"),
    (0x5E, ";^-/Â[ÀÁÃÅÇÑö,%_>?øÉÊËÈÍÎÏÌ`:#§'"), (0x7E, "=\"Øabcdefghi«»ðýþ±°jklmnopqrªºæ¸"),
    (0x9E, "Æ¤µßstuvwxyz¡¿ÐÝÞ®¢£¥·©@¶¼½¾¬|‾¨"), (0xBE, "´×äABCDEFGHI\u00adô¦òóõüJKLMNOPQR¹û\x7dù"),
    (0xDE, "úÿÖ÷STUVWXYZ²Ô\\ÒÓÕ0123456789³Û]Ù"), (0xFE, "Ú\u009f")]

def codePage424 : CharTable where
  stretches := #[
    (0x00, "\x00\x01\x02\x03\u009c\x09\u0086\x7f\u0097\u008d\u008e\x0b\x0c\x0d\x0e\x0f\x10"),
    (0x11, "\x11\x12\x13\u009d\u0085\x08\u0087\x18\x19\u0092\u008f\x1c\x1d\x1e\x1f\u0080"),
    (0x21, "\u0081\u0082\u0083\u0084\x0a\x17\x1b\u0088\u0089\u008a\u008b\u008c\x05\x06\x07"),
    (0x30, "\u0090\u0091\x16\u0093\u0094\u0095\u0096\x04\u0098\u0099\u009a\u009b\x14\x15"),
    (0x3E, "\u009e\x1a \u05d0\u05d1\u05d2\u05d3\u05d4\u05d5\u05d6\u05d7\u05d8¢.<(+|&\u05d9"),
    (0x52, "\u05da\u05db\u05dc\u05dd\u05de\u05df\u05e0\u05e1!$*);¬-/\u05e2\u05e3\u05e4"),
    (0x65, "\u05e5\u05e6\u05e7\u05e8\u05e9¦,%_>?"), (0x71, "\u05ea"), (0x74, "\u00a0"),
    (0x78, "‗`:#@'=\""), (0x81, "abcdefghi«»"), (0x8F, "±°jklmnopqr"), (0x9D, "¸"),
    (0x9F, "¤µ~stuvwxyz"), (0xAF, "®^£¥·©§¶¼½¾[]¯¨´×\x7bABCDEFGHI\u00ad"),
    (0xD0, "\x7dJKLMNOPQR¹"), (0xE0, "\\÷STUVWXYZ²"), (0xF0, "0123456789³"), (0xFF, "\u009f")]

def codePage500 : CharTable where
  stretches := #[
    (0x00, "\x00\x01\x02\x03\u009c\x09\u0086\x7f\u0097\u008d\u008e\x0b\x0c\x0d\x0e\x0f\x10"),
    (0x11, "\x11\x12\x13\u009d\u0085\x08\u0087\x18\x19\u0092\u008f\x1c\x1d\x1e\x1f\u0080"),
    (0x21, "\u0081\u0082\u0083\u0084\x0a\x17\x1b\u0088\u0089\u008a\u008b\u008c\x05\x06\x07"),
    (0x30, "\u0090\u0091\x16\u0093\u0094\u0095\u0096\x04\u0098\u0099\u009a\u009b\x14\x15"),
    (0x3E, "\u009e\x1a \u00a0âäàáãåçñ[.<(+!&éêëèíîïìß]$*)"),
    (0x5E, ";^-/ÂÄÀÁÃÅÇÑ¦,%_>?øÉÊËÈÍÎÏÌ`:#@'"), (0x7E, "=\"Øabcdefghi«»ðýþ±°jklmnopqrªºæ¸"),
    (0x9E, "Æ¤µ~stuvwxyz¡¿ÐÝÞ®¢£¥·©§¶¼½¾¬|¯¨"),
    (0xBE, "´×\x7bABCDEFGHI\u00adôöòóõ\x7dJKLMNOPQR¹ûüù"),
    (0xDE, "úÿ\\÷STUVWXYZ²ÔÖÒÓÕ0123456789³ÛÜÙ"), (0xFE, "Ú\u009f")]

def codePage875 : CharTable where
  stretches := #[
    (0x00, "\x00\x01\x02\x03\u009c\x09\u0086\x7f\u0097\u008d\u008e\x0b\x0c\x0d\x0e\x0f\x10"),
    (0x11, "\x11\x12\x13\u009d\u0085\x08\u0087\x18\x19\u0092\u008f\x1c\x1d\x1e\x1f\u0080"),
    (0x21, "\u0081\u0082\u0083\u0084\x0a\x17\x1b\u0088\u0089\u008a\u008b\u008c\x05\x06\x07"),
    (0x30, "\u0090\u0091\x16\u0093\u0094\u0095\u0096\x04\u0098\u0099\u009a\u009b\x14\x15"),
    (0x3E, "\u009e\x1a ΑΒΓΔΕΖΗΘΙ[.<(+!&ΚΛΜΝΞΟΠΡΣ]$*)"),
    (0x5E, ";^-/ΤΥΦΧΨΩΪΫ|,%_>?¨ΆΈΉ\u00a0ΊΌΎΏ`:#@'"), (0x7E, "=\"΅abcdefghiαβγδεζ°jklmnopqrηθικ"),
    (0x9E, "λμ´~stuvwxyzνξοπρσ£άέήϊίόύϋώςτυφ"),
    (0xBE, "χψ\x7bABCDEFGHI\u00adωΐΰ‘―\x7dJKLMNOPQR±½\x1a·"),
    (0xDE, "’¦\\\x1aSTUVWXYZ²§\x1a\x1a«¬0123456789³©\x1a\x1a"), (0xFE, "»\u009f")]

def codePage1026 : CharTable where
  stretches := #[
    (0x00, "\x00\x01\x02\x03\u009c\x09\u0086\x7f\u0097\u008d\u008e\x0b\x0c\x0d\x0e\x0f\x10"),
    (0x11, "\x11\x12\x13\u009d\u0085\x08\u0087\x18\x19\u0092\u008f\x1c\x1d\x1e\x1f\u0080"),
    (0x21, "\u0081\u0082\u0083\u0084\x0a\x17\x1b\u0088\u0089\u008a\u008b\u008c\x05\x06\x07"),
    (0x30, "\u0090\u0091\x16\u0093\u0094\u0095\u0096\x04\u0098\u0099\u009a\u009b\x14\x15"),
    (0x3E, "\u009e\x1a \u00a0âäàáãå\x7bñÇ.<(+!&éêëèíîïìßĞİ*)"),
    (0x5E, ";^-/ÂÄÀÁÃÅ[Ñş,%_>?øÉÊËÈÍÎÏÌı:ÖŞ'"), (0x7E, "=ÜØabcdefghi«»\x7d`¦±°jklmnopqrªºæ¸"),
    (0x9E, "Æ¤µöstuvwxyz¡¿]$@®¢£¥·©§¶¼½¾¬|¯¨"), (0xBE, "´×çABCDEFGHI\u00adô~òóõğJKLMNOPQR¹û\\ù"),
    (0xDE, "úÿü÷STUVWXYZ²Ô#ÒÓÕ0123456789³Û\"Ù"), (0xFE, "Ú\u009f")]

def codePage1140 : CharTable where
  stretches := #[
    (0x00, "\x00\x01\x02\x03\u009c\x09\u0086\x7f\u0097\u008d\u008e\x0b\x0c\x0d\x0e\x0f\x10"),
    (0x11, "\x11\x12\x13\u009d\u0085\x08\u0087\x18\x19\u0092\u008f\x1c\x1d\x1e\x1f\u0080"),
    (0x21, "\u0081\u0082\u0083\u0084\x0a\x17\x1b\u0088\u0089\u008a\u008b\u008c\x05\x06\x07"),
    (0x30, "\u0090\u0091\x16\u0093\u0094\u0095\u0096\x04\u0098\u0099\u009a\u009b\x14\x15"),
    (0x3E, "\u009e\x1a \u00a0âäàáãåçñ¢.<(+|&éêëèíîïìß!$*)"),
    (0x5E, ";¬-/ÂÄÀÁÃÅÇÑ¦,%_>?øÉÊËÈÍÎÏÌ`:#@'"), (0x7E, "=\"Øabcdefghi«»ðýþ±°jklmnopqrªºæ¸"),
    (0x9E, "Æ€µ~stuvwxyz¡¿ÐÝÞ®^£¥·©§¶¼½¾[]¯¨"),
    (0xBE, "´×\x7bABCDEFGHI\u00adôöòóõ\x7dJKLMNOPQR¹ûüù"),
    (0xDE, "úÿ\\÷STUVWXYZ²ÔÖÒÓÕ0123456789³ÛÜÙ"), (0xFE, "Ú\u009f")]

def codePage437 : CharTable where
  stretches := #[
    (0x80, "ÇüéâäàåçêëèïîìÄÅÉæÆôöòûùÿÖÜ¢£¥₧ƒ"), (0xA0, "áíóúñÑªº¿⌐¬½¼¡«»░▒▓│┤╡╢╖╕╣║╗╝╜╛┐"),
    (0xC0, "└┴┬├─┼╞╟╚╔╩╦╠═╬╧╨╤╥╙╘╒╓╫╪┘┌█▄▌▐▀"), (0xE0, "αßΓπΣσµτΦΘΩδ∞φε∩≡±≥≤⌠⌡÷≈°∙·√ⁿ²■\u00a0")]

def codePage720 : CharTable where
  stretches := #[
    (0x80, "\u0080\u0081éâ\u0084à\u0086çêëèïî\u008d\u008e\u008f\u0090\u0651\u0652ô¤\u0640û"),
    (0x97, "ù\u0621\u0622\u0623\u0624£\u0625\u0626\u0627\u0628\u0629\u062a\u062b\u062c"),
    (0xA5, "\u062d\u062e\u062f\u0630\u0631\u0632\u0633\u0634\u0635«»░▒▓│┤╡╢╖╕╣║╗╝╜╛┐└┴┬├─"),
    (0xC5, "┼╞╟╚╔╩╦╠═╬╧╨╤╥╙╘╒╓╫╪┘┌█▄▌▐▀\u0636\u0637\u0638\u0639\u063a"),
    (0xE5, "\u0641µ\u0642\u0643\u0644\u0645\u0646\u0647\u0648\u0649\u064a≡\u064b\u064c"),
    (0xF3, "\u064d\u064e\u064f\u0650≈°∙·√ⁿ²■\u00a0")]

def codePage737 : CharTable where
  stretches := #[
    (0x80, "ΑΒΓΔΕΖΗΘΙΚΛΜΝΞΟΠΡΣΤΥΦΧΨΩαβγδεζηθ"), (0xA0, "ικλμνξοπρσςτυφχψ░▒▓│┤╡╢╖╕╣║╗╝╜╛┐"),
    (0xC0, "└┴┬├─┼╞╟╚╔╩╦╠═╬╧╨╤╥╙╘╒╓╫╪┘┌█▄▌▐▀"), (0xE0, "ωάέήϊίόύϋώΆΈΉΊΌΎΏ±≥≤ΪΫ÷≈°∙·√ⁿ²■\u00a0")]

def codePage775 : CharTable where
  stretches := #[
    (0x80, "ĆüéāäģåćłēŖŗīŹÄÅÉæÆōöĢ¢ŚśÖÜø£Ø×¤"), (0xA0, "ĀĪóŻżź”¦©®¬½¼Ł«»░▒▓│┤ĄČĘĖ╣║╗╝ĮŠ┐"),
    (0xC0, "└┴┬├─┼ŲŪ╚╔╩╦╠═╬Žąčęėįšųūž┘┌█▄▌▐▀"),
    (0xE0, "ÓßŌŃõÕµńĶķĻļņĒŅ’\u00ad±“¾¶§÷„°∙·¹³²■\u00a0")]

def codePage850 : CharTable where
  stretches := #[
    (0x80, "ÇüéâäàåçêëèïîìÄÅÉæÆôöòûùÿÖÜø£Ø×ƒ"), (0xA0, "áíóúñÑªº¿®¬½¼¡«»░▒▓│┤ÁÂÀ©╣║╗╝¢¥┐"),
    (0xC0, "└┴┬├─┼ãÃ╚╔╩╦╠═╬¤ðÐÊËÈıÍÎÏ┘┌█▄¦Ì▀"),
    (0xE0, "ÓßÔÒõÕµþÞÚÛÙýÝ¯´\u00ad±‗¾¶§÷¸°¨·¹³²■\u00a0")]

def codePage852 : CharTable where
  stretches := #[
    (0x80, "ÇüéâäůćçłëŐőîŹÄĆÉĹĺôöĽľŚśÖÜŤťŁ×č"), (0xA0, "áíóúĄąŽžĘę¬źČş«»░▒▓│┤ÁÂĚŞ╣║╗╝Żż┐"),
    (0xC0, "└┴┬├─┼Ăă╚╔╩╦╠═╬¤đĐĎËďŇÍÎě┘┌█▄ŢŮ▀"),
    (0xE0, "ÓßÔŃńňŠšŔÚŕŰýÝţ´\u00ad˝˛ˇ˘§÷¸°¨˙űŘř■\u00a0")]

def codePage855 : CharTable where
  stretches := #[
    (0x80, "ђЂѓЃёЁєЄѕЅіІїЇјЈљЉњЊћЋќЌўЎџЏюЮъЪ"), (0xA0, "аАбБцЦдДеЕфФгГ«»░▒▓│┤хХиИ╣║╗╝йЙ┐"),
    (0xC0, "└┴┬├─┼кК╚╔╩╦╠═╬¤лЛмМнНоОп┘┌█▄Пя▀"),
    (0xE0, "ЯрРсСтТуУжЖвВьЬ№\u00adыЫзЗшШэЭщЩчЧ§■\u00a0")]

def codePage856 : CharTable where
  stretches := #[
    (0x80, "\u05d0\u05d1\u05d2\u05d3\u05d4\u05d5\u05d6\u05d7\u05d8\u05d9\u05da\u05db\u05dc"),
    (0x8D, "\u05dd\u05de\u05df\u05e0\u05e1\u05e2\u05e3\u05e4\u05e5\u05e6\u05e7\u05e8\u05e9"),
    (0x9A, "\u05ea"), (0x9C, "£"), (0x9E, "×"), (0xA9, "®¬½¼"), (0xAE, "«»░▒▓│┤"),
    (0xB8, "©╣║╗╝¢¥┐└┴┬├─┼"), (0xC8, "╚╔╩╦╠═╬¤"), (0xD9, "┘┌█▄¦"), (0xDF, "▀"), (0xE6, "µ"),
    (0xEE, "¯´\u00ad±‗¾¶§÷¸°¨·¹³²■\u00a0")]

def codePage857 : CharTable where
  stretches := #[
    (0x80, "ÇüéâäàåçêëèïîıÄÅÉæÆôöòûùİÖÜø£ØŞş"), (0xA0, "áíóúñÑĞğ¿®¬½¼¡«»░▒▓│┤ÁÂÀ©╣║╗╝¢¥┐"),
    (0xC0, "└┴┬├─┼ãÃ╚╔╩╦╠═╬¤ºªÊËÈ"), (0xD6, "ÍÎÏ┘┌█▄¦Ì▀ÓßÔÒõÕµ"), (0xE8, "×ÚÛÙìÿ¯´\u00ad±"),
    (0xF3, "¾¶§÷¸°¨·¹³²■\u00a0")]

def codePage858 : CharTable where
  stretches := #[
    (0x80, "ÇüéâäàåçêëèïîìÄÅÉæÆôöòûùÿÖÜø£Ø×ƒ"), (0xA0, "áíóúñÑªº¿®¬½¼¡«»░▒▓│┤ÁÂÀ©╣║╗╝¢¥┐"),
    (0xC0, "└┴┬├─┼ãÃ╚╔╩╦╠═╬¤ðÐÊËÈ€ÍÎÏ┘┌█▄¦Ì▀"),
    (0xE0, "ÓßÔÒõÕµþÞÚÛÙýÝ¯´\u00ad±‗¾¶§÷¸°¨·¹³²■\u00a0")]

def codePage860 : CharTable where
  stretches := #[
    (0x80, "ÇüéâãàÁçêÊèÍÔìÃÂÉÀÈôõòÚùÌÕÜ¢£Ù₧Ó"), (0xA0, "áíóúñÑªº¿Ò¬½¼¡«»░▒▓│┤╡╢╖╕╣║╗╝╜╛┐"),
    (0xC0, "└┴┬├─┼╞╟╚╔╩╦╠═╬╧╨╤╥╙╘╒╓╫╪┘┌█▄▌▐▀"), (0xE0, "αßΓπΣσµτΦΘΩδ∞φε∩≡±≥≤⌠⌡÷≈°∙·√ⁿ²■\u00a0")]

def codePage861 : CharTable where
  stretches := #[
    (0x80, "ÇüéâäàåçêëèÐðÞÄÅÉæÆôöþûÝýÖÜø£Ø₧ƒ"), (0xA0, "áíóúÁÍÓÚ¿⌐¬½¼¡«»░▒▓│┤╡╢╖╕╣║╗╝╜╛┐"),
    (0xC0, "└┴┬├─┼╞╟╚╔╩╦╠═╬╧╨╤╥╙╘╒╓╫╪┘┌█▄▌▐▀"), (0xE0, "αßΓπΣσµτΦΘΩδ∞φε∩≡±≥≤⌠⌡÷≈°∙·√ⁿ²■\u00a0")]

def codePage862 : CharTable where
  stretches := #[
    (0x80, "\u05d0\u05d1\u05d2\u05d3\u05d4\u05d5\u05d6\u05d7\u05d8\u05d9\u05da\u05db\u05dc"),
    (0x8D, "\u05dd\u05de\u05df\u05e0\u05e1\u05e2\u05e3\u05e4\u05e5\u05e6\u05e7\u05e8\u05e9"),
    (0x9A, "\u05ea¢£¥₧ƒáíóúñÑªº¿⌐¬½¼¡«»░▒▓│┤╡╢╖╕╣"), (0xBA, "║╗╝╜╛┐└┴┬├─┼╞╟╚╔╩╦╠═╬╧╨╤╥╙╘╒╓╫╪┘"),
    (0xDA, "┌█▄▌▐▀αßΓπΣσµτΦΘΩδ∞φε∩≡±≥≤⌠⌡÷≈°∙"), (0xFA, "·√ⁿ²■\u00a0")]

def codePage863 : CharTable where
  stretches := #[
    (0x80, "ÇüéâÂà¶çêëèïî‗À§ÉÈÊôËÏûù¤ÔÜ¢£ÙÛƒ"), (0xA0, "¦´óú¨¸³¯Î⌐¬½¼¾«»░▒▓│┤╡╢╖╕╣║╗╝╜╛┐"),
    (0xC0, "└┴┬├─┼╞╟╚╔╩╦╠═╬╧╨╤╥╙╘╒╓╫╪┘┌█▄▌▐▀"), (0xE0, "αßΓπΣσµτΦΘΩδ∞φε∩≡±≥≤⌠⌡÷≈°∙·√ⁿ²■\u00a0")]

def codePage864 : CharTable where
  stretches := #[
    (0x25, "\u066a"), (0x80, "°·∙√▒─│┼┤┬├┴┐┌└┘β∞φ±½¼≈«»\ufef7\ufef8"), (0x9D, "\ufefb\ufefc"),
    (0xA0, "\u00a0\u00ad\ufe82£¤\ufe84"),
    (0xA8, "\ufe8e\ufe8f\ufe95\ufe99\u060c\ufe9d\ufea1\ufea5\u0660\u0661\u0662\u0663\u0664"),
    (0xB5, "\u0665\u0666\u0667\u0668\u0669\ufed1\u061b\ufeb1\ufeb5\ufeb9\u061f¢\ufe80"),
    (0xC2, "\ufe81\ufe83\ufe85\ufeca\ufe8b\ufe8d\ufe91\ufe93\ufe97\ufe9b\ufe9f\ufea3\ufea7"),
    (0xCF, "\ufea9\ufeab\ufead\ufeaf\ufeb3\ufeb7\ufebb\ufebf\ufec1\ufec5\ufecb\ufecf¦¬÷×"),
    (0xDF, "\ufec9\u0640\ufed3\ufed7\ufedb\ufedf\ufee3\ufee7\ufeeb\ufeed\ufeef\ufef3\ufebd"),
    (0xEC, "\ufecc\ufece\ufecd\ufee1\ufe7d\u0651\ufee5\ufee9\ufeec\ufef0\ufef2\ufed0\ufed5"),
    (0xF9, "\ufef5\ufef6\ufedd\ufed9\ufef1■")]

def codePage865 : CharTable where
  stretches := #[
    (0x80, "ÇüéâäàåçêëèïîìÄÅÉæÆôöòûùÿÖÜø£Ø₧ƒ"), (0xA0, "áíóúñÑªº¿⌐¬½¼¡«¤░▒▓│┤╡╢╖╕╣║╗╝╜╛┐"),
    (0xC0, "└┴┬├─┼╞╟╚╔╩╦╠═╬╧╨╤╥╙╘╒╓╫╪┘┌█▄▌▐▀"), (0xE0, "αßΓπΣσµτΦΘΩδ∞φε∩≡±≥≤⌠⌡÷≈°∙·√ⁿ²■\u00a0")]

def codePage866 : CharTable where
  stretches := #[
    (0x80, "АБВГДЕЖЗИЙКЛМНОПРСТУФХЦЧШЩЪЫЬЭЮЯ"), (0xA0, "абвгдежзийклмноп░▒▓│┤╡╢╖╕╣║╗╝╜╛┐"),
    (0xC0, "└┴┬├─┼╞╟╚╔╩╦╠═╬╧╨╤╥╙╘╒╓╫╪┘┌█▄▌▐▀"), (0xE0, "рстуфхцчшщъыьэюяЁёЄєЇїЎў°∙·√№¤■\u00a0")]

def codePage869 : CharTable where
  stretches := #[
    (0x86, "Ά"), (0x88, "·¬¦‘’Έ―ΉΊΪΌ"), (0x95, "ΎΫ©Ώ²³ά£έήίϊΐόύΑΒΓΔΕΖΗ½ΘΙ«»░▒▓│┤"),
    (0xB5, "ΚΛΜΝ╣║╗╝ΞΟ┐└┴┬├─┼ΠΡ╚╔╩╦╠═╬ΣΤΥΦΧΨ"), (0xD5, "Ωαβγ┘┌█▄δε▀ζηθικλμνξοπρσςτ΄\u00ad±υφχ"),
    (0xF5, "§ψ΅°¨ωϋΰώ■\u00a0")]

def codePage874 : CharTable where
  stretches := #[
    (0x80, "€"), (0x85, "…"), (0x91, "‘’“”•–—"), (0xA0, "\u00a0กขฃคฅฆงจฉชซฌญฎฏฐฑฒณดตถทธนบปผฝพฟ"),
    (0xC0, "ภมยรฤลฦวศษสหฬอฮฯะ\u0e31าำ\u0e34\u0e35\u0e36\u0e37\u0e38\u0e39\u0e3a"),
    (0xDF, "฿เแโใไๅๆ\u0e47\u0e48\u0e49\u0e4a\u0e4b\u0e4c\u0e4d\u0e4e๏๐๑๒๓๔๕๖๗๘๙๚๛")]

def codePage1006 : CharTable where
  stretches := #[
    (0xA0, "\u00a0\u06f0\u06f1\u06f2\u06f3\u06f4\u06f5\u06f6\u06f7\u06f8\u06f9\u060c\u061b"),
    (0xAD, "\u00ad\u061f\ufe81\ufe8d\ufe8e\ufe8e\ufe8f\ufe91\ufb56\ufb58\ufe93\ufe95\ufe97"),
    (0xBA, "\ufb66\ufb68\ufe99\ufe9b\ufe9d\ufe9f\ufb7a\ufb7c\ufea1\ufea3\ufea5\ufea7\ufea9"),
    (0xC7, "\ufb84\ufeab\ufead\ufb8c\ufeaf\ufb8a\ufeb1\ufeb3\ufeb5\ufeb7\ufeb9\ufebb\ufebd"),
    (0xD4, "\ufebf\ufec1\ufec5\ufec9\ufeca\ufecb\ufecc\ufecd\ufece\ufecf\ufed0\ufed1\ufed3"),
    (0xE1, "\ufed5\ufed7\ufed9\ufedb\ufb92\ufb94\ufedd\ufedf\ufee0\ufee1\ufee3\ufb9e\ufee5"),
    (0xEE, "\ufee7\ufe85\ufeed\ufba6\ufba8\ufba9\ufbaa\ufe80\ufe89\ufe8a\ufe8b\ufef1\ufef2"),
    (0xFB, "\ufef3\ufbb0\ufbae\ufe7c\ufe7d")]

def codePage1125 : CharTable where
  stretches := #[
    (0x80, "АБВГДЕЖЗИЙКЛМНОПРСТУФХЦЧШЩЪЫЬЭЮЯ"), (0xA0, "абвгдежзийклмноп░▒▓│┤╡╢╖╕╣║╗╝╜╛┐"),
    (0xC0, "└┴┬├─┼╞╟╚╔╩╦╠═╬╧╨╤╥╙╘╒╓╫╪┘┌█▄▌▐▀"), (0xE0, "рстуфхцчшщъыьэюяЁёҐґЄєІіЇї·√№¤■\u00a0")]

def codePage1250 : CharTable where
  stretches := #[
    (0x80, "€"), (0x82, "‚"), (0x84, "„…†‡"), (0x89, "‰Š‹ŚŤŽŹ"), (0x91, "‘’“”•–—"),
    (0x99, "™š›śťžź\u00a0ˇ˘Ł¤Ą¦§¨©Ş«¬\u00ad®Ż°±˛ł´µ¶·¸"),
    (0xB9, "ąş»Ľ˝ľżŔÁÂĂÄĹĆÇČÉĘËĚÍÎĎĐŃŇÓÔŐÖ×Ř"), (0xD9, "ŮÚŰÜÝŢßŕáâăäĺćçčéęëěíîďđńňóôőö÷ř"),
    (0xF9, "ůúűüýţ˙")]

def codePage1251 : CharTable where
  stretches := #[
    (0x80, "ЂЃ‚ѓ„…†‡€‰Љ‹ЊЌЋЏђ‘’“”•–—"), (0x99, "™љ›њќћџ\u00a0ЎўЈ¤Ґ¦§Ё©Є«¬\u00ad®Ї°±Ііґµ¶·ё"),
    (0xB9, "№є»јЅѕїАБВГДЕЖЗИЙКЛМНОПРСТУФХЦЧШ"), (0xD9, "ЩЪЫЬЭЮЯабвгдежзийклмнопрстуфхцчш"),
    (0xF9, "щъыьэюя")]

def codePage1252 : CharTable where
  stretches := #[
    (0x80, "€"), (0x82, "‚ƒ„…†‡ˆ‰Š‹Œ"), (0x8E, "Ž"), (0x91, "‘’“”•–—˜™š›œ"),
    (0x9E, "žŸ\u00a0¡¢£¤¥¦§¨©ª«¬\u00ad®¯°±²³´µ¶·¸¹º»¼½"),
    (0xBE, "¾¿ÀÁÂÃÄÅÆÇÈÉÊËÌÍÎÏÐÑÒÓÔÕÖ×ØÙÚÛÜÝ"), (0xDE, "Þßàáâãäåæçèéêëìíîïðñòóôõö÷øùúûüý"),
    (0xFE, "þÿ")]

def codePage1253 : CharTable where
  stretches := #[
    (0x80, "€"), (0x82, "‚ƒ„…†‡"), (0x89, "‰"), (0x8B, "‹"), (0x91, "‘’“”•–—"), (0x99, "™"),
    (0x9B, "›"), (0xA0, "\u00a0΅Ά£¤¥¦§¨©"), (0xAB, "«¬\u00ad®―°±²³΄µ¶·ΈΉΊ»Ό½ΎΏΐΑΒΓΔΕΖΗΘΙΚ"),
    (0xCB, "ΛΜΝΞΟΠΡ"), (0xD3, "ΣΤΥΦΧΨΩΪΫάέήίΰαβγδεζηθικλμνξοπρς"), (0xF3, "στυφχψωϊϋόύώ")]

def codePage1254 : CharTable where
  stretches := #[
    (0x80, "€"), (0x82, "‚ƒ„…†‡ˆ‰Š‹Œ"), (0x91, "‘’“”•–—˜™š›œ"),
    (0x9F, "Ÿ\u00a0¡¢£¤¥¦§¨©ª«¬\u00ad®¯°±²³´µ¶·¸¹º»¼½¾"),
    (0xBF, "¿ÀÁÂÃÄÅÆÇÈÉÊËÌÍÎÏĞÑÒÓÔÕÖ×ØÙÚÛÜİŞ"), (0xDF, "ßàáâãäåæçèéêëìíîïğñòóôõö÷øùúûüış"),
    (0xFF, "ÿ")]

def codePage1255 : CharTable where
  stretches := #[
    (0x80, "€"), (0x82, "‚ƒ„…†‡ˆ‰"), (0x8B, "‹"), (0x91, "‘’“”•–—˜™"), (0x9B, "›"),
    (0xA0, "\u00a0¡¢£₪¥¦§¨©×«¬\u00ad®¯°±²³´µ¶·¸¹÷»¼½¾¿"),
    (0xC0, "\u05b0\u05b1\u05b2\u05b3\u05b4\u05b5\u05b6\u05b7\u05b8\u05b9"),
    (0xCB, "\u05bb\u05bc\u05bd\u05be\u05bf\u05c0\u05c1\u05c2\u05c3\u05f0\u05f1\u05f2\u05f3"),
    (0xD8, "\u05f4"),
    (0xE0, "\u05d0\u05d1\u05d2\u05d3\u05d4\u05d5\u05d6\u05d7\u05d8\u05d9\u05da\u05db\u05dc"),
    (0xED, "\u05dd\u05de\u05df\u05e0\u05e1\u05e2\u05e3\u05e4\u05e5\u05e6\u05e7\u05e8\u05e9"),
    (0xFA, "\u05ea"), (0xFD, "\u200e\u200f")]

def codePage1256 : CharTable where
  stretches := #[
    (0x80, "€\u067e‚ƒ„…†‡ˆ‰\u0679‹Œ\u0686\u0698\u0688\u06af‘’“”•–—\u06a9™\u0691›œ\u200c"),
    (0x9E, "\u200d\u06ba\u00a0\u060c¢£¤¥¦§¨©\u06be«¬\u00ad®¯°±²³´µ¶·¸¹\u061b»¼½"),
    (0xBE, "¾\u061f\u06c1\u0621\u0622\u0623\u0624\u0625\u0626\u0627\u0628\u0629\u062a"),
    (0xCB, "\u062b\u062c\u062d\u062e\u062f\u0630\u0631\u0632\u0633\u0634\u0635\u0636×"),
    (0xD8, "\u0637\u0638\u0639\u063a\u0640\u0641\u0642\u0643à\u0644â\u0645\u0646\u0647"),
    (0xE6, "\u0648çèéêë\u0649\u064aîï\u064b\u064c\u064d\u064eô\u064f\u0650÷\u0651ù\u0652ûü"),
    (0xFD, "\u200e\u200f\u06d2")]

def codePage1257 : CharTable where
  stretches := #[
    (0x80, "€"), (0x82, "‚"), (0x84, "„…†‡"), (0x89, "‰"), (0x8B, "‹"), (0x8D, "¨ˇ¸"),
    (0x91, "‘’“”•–—"), (0x99, "™"), (0x9B, "›"), (0x9D, "¯˛"), (0xA0, "\u00a0"), (0xA2, "¢£¤"),
    (0xA6, "¦§Ø©Ŗ«¬\u00ad®Æ°±²³´µ¶·ø¹ŗ»¼½¾æĄĮĀĆÄÅ"), (0xC6, "ĘĒČÉŹĖĢĶĪĻŠŃŅÓŌÕÖ×ŲŁŚŪÜŻŽßąįāćäå"),
    (0xE6, "ęēčéźėģķīļšńņóōõö÷ųłśūüżž˙")]

def codePage1258 : CharTable where
  stretches := #[
    (0x80, "€"), (0x82, "‚ƒ„…†‡ˆ‰"), (0x8B, "‹Œ"), (0x91, "‘’“”•–—˜™"), (0x9B, "›œ"),
    (0x9F, "Ÿ\u00a0¡¢£¤¥¦§¨©ª«¬\u00ad®¯°±²³´µ¶·¸¹º»¼½¾"),
    (0xBF, "¿ÀÁÂĂÄÅÆÇÈÉÊË\u0300ÍÎÏĐÑ\u0309ÓÔƠÖ×ØÙÚÛÜƯ\u0303"),
    (0xDF, "ßàáâăäåæçèéêë\u0301íîïđñ\u0323óôơö÷øùúûüư₫"), (0xFF, "ÿ")]

end SymbolReference.Encoding
