import PointerBindings.Xml.Charset.Basic

/-! # Windows character sets — code pages 1250 to 1258

    Code pages that put punctuation where the parts of ISO 8859 have control characters. -/

namespace PointerBindings.Xml

/-- The code pages from 1250 to 1258. -/
def windowsCharsets : List NamedCharset :=
  [⟨⟨"cp1250", ["windows_1250"]⟩,
    "€ ‚ „…†‡ ‰Š‹ŚŤŽŹ ‘’“”•–— ™š›śťžź\u00a0\u02c7\u02d8Ł¤Ą¦§\u00a8©Ş«¬\u00ad®Ż°±\u02dbł"
    ++ "\u00b4µ¶·\u00b8ąş»Ľ\u02ddľżŔÁÂĂÄĹĆÇČÉĘËĚÍÎĎĐŃŇÓÔŐÖ×ŘŮÚŰÜÝŢßŕáâăäĺćçčéęëěíîďđńňóôőö÷ř"
    ++ "ůúűüýţ\u02d9"⟩,
   ⟨⟨"cp1251", ["windows_1251"]⟩,
    "ЂЃ‚ѓ„…†‡€‰Љ‹ЊЌЋЏђ‘’“”•–— ™љ›њќћџ\u00a0ЎўЈ¤Ґ¦§Ё©Є«¬\u00ad®Ї°±Ііґµ¶·ё№є»јЅѕїАБВГДЕЖЗИЙ"
    ++ "КЛМНОПРСТУФХЦЧШЩЪЫЬЭЮЯабвгдежзийклмнопрстуфхцчшщъыьэюя"⟩,
   ⟨⟨"cp1252", ["windows_1252"]⟩,
    "€ ‚ƒ„…†‡\u02c6‰Š‹Œ Ž  ‘’“”•–—\u02dc™š›œ žŸ\u00a0¡¢£¤¥¦§\u00a8©ª«¬\u00ad®\u00af°±²³"
    ++ "\u00b4µ¶·\u00b8¹º»¼½¾¿ÀÁÂÃÄÅÆÇÈÉÊËÌÍÎÏÐÑÒÓÔÕÖ×ØÙÚÛÜÝÞßàáâãäåæçèéêëìíîïðñòóôõö÷øùúûüý"
    ++ "þÿ"⟩,
   ⟨⟨"cp1253", ["windows_1253"]⟩,
    "€ ‚ƒ„…†‡ ‰ ‹     ‘’“”•–— ™ ›    \u00a0\u0385Ά£¤¥¦§\u00a8© «¬\u00ad®―°±²³\u0384µ¶·ΈΉΊ"
    ++ "»Ό½ΎΏΐΑΒΓΔΕΖΗΘΙΚΛΜΝΞΟΠΡ ΣΤΥΦΧΨΩΪΫάέήίΰαβγδεζηθικλμνξοπρςστυφχψωϊϋόύώ "⟩,
   ⟨⟨"cp1254", ["windows_1254"]⟩,
    "€ ‚ƒ„…†‡\u02c6‰Š‹Œ    ‘’“”•–—\u02dc™š›œ  Ÿ\u00a0¡¢£¤¥¦§\u00a8©ª«¬\u00ad®\u00af°±²³"
    ++ "\u00b4µ¶·\u00b8¹º»¼½¾¿ÀÁÂÃÄÅÆÇÈÉÊËÌÍÎÏĞÑÒÓÔÕÖ×ØÙÚÛÜİŞßàáâãäåæçèéêëìíîïğñòóôõö÷øùúûüı"
    ++ "şÿ"⟩,
   ⟨⟨"cp1255", ["windows_1255"]⟩,
    "€ ‚ƒ„…†‡\u02c6‰ ‹     ‘’“”•–—\u02dc™ ›    \u00a0¡¢£₪¥¦§\u00a8©×«¬\u00ad®\u00af°±²³"
    ++ "\u00b4µ¶·\u00b8¹÷»¼½¾¿\u05b0\u05b1\u05b2\u05b3\u05b4\u05b5\u05b6\u05b7\u05b8\u05b9 "
    ++ "\u05bb\u05bc\u05bd\u05be\u05bf\u05c0\u05c1\u05c2\u05c3\u05f0\u05f1\u05f2\u05f3\u05f4"
    ++ "       \u05d0\u05d1\u05d2\u05d3\u05d4\u05d5\u05d6\u05d7\u05d8\u05d9\u05da\u05db"
    ++ "\u05dc\u05dd\u05de\u05df\u05e0\u05e1\u05e2\u05e3\u05e4\u05e5\u05e6\u05e7\u05e8\u05e9"
    ++ "\u05ea  \u200e\u200f "⟩,
   ⟨⟨"cp1256", ["windows_1256"]⟩,
    "€\u067e‚ƒ„…†‡\u02c6‰\u0679‹Œ\u0686\u0698\u0688\u06af‘’“”•–—\u06a9™\u0691›œ\u200c"
    ++ "\u200d\u06ba\u00a0،¢£¤¥¦§\u00a8©\u06be«¬\u00ad®\u00af°±²³\u00b4µ¶·\u00b8¹\u061b»¼½¾"
    ++ "\u061f\u06c1\u0621\u0622\u0623\u0624\u0625\u0626\u0627\u0628\u0629\u062a\u062b\u062c"
    ++ "\u062d\u062e\u062f\u0630\u0631\u0632\u0633\u0634\u0635\u0636×\u0637\u0638\u0639"
    ++ "\u063a\u0640\u0641\u0642\u0643à\u0644â\u0645\u0646\u0647\u0648çèéêë\u0649\u064aîï"
    ++ "\u064b\u064c\u064d\u064eô\u064f\u0650÷\u0651ù\u0652ûü\u200e\u200f\u06d2"⟩,
   ⟨⟨"cp1257", ["windows_1257"]⟩,
    "€ ‚ „…†‡ ‰ ‹ \u00a8\u02c7\u00b8 ‘’“”•–— ™ › \u00af\u02db \u00a0 ¢£¤ ¦§Ø©Ŗ«¬\u00ad®Æ°"
    ++ "±²³\u00b4µ¶·ø¹ŗ»¼½¾æĄĮĀĆÄÅĘĒČÉŹĖĢĶĪĻŠŃŅÓŌÕÖ×ŲŁŚŪÜŻŽßąįāćäåęēčéźėģķīļšńņóōõö÷ųłśūüżž"
    ++ "\u02d9"⟩,
   ⟨⟨"cp1258", ["windows_1258"]⟩,
    "€ ‚ƒ„…†‡\u02c6‰ ‹Œ    ‘’“”•–—\u02dc™ ›œ  Ÿ\u00a0¡¢£¤¥¦§\u00a8©ª«¬\u00ad®\u00af°±²³"
    ++ "\u00b4µ¶·\u00b8¹º»¼½¾¿ÀÁÂĂÄÅÆÇÈÉÊË\u0300ÍÎÏĐÑ\u0309ÓÔƠÖ×ØÙÚÛÜƯ\u0303ßàáâăäåæçèéêë"
    ++ "\u0301íîïđñ\u0323óôơö÷øùúûüư₫ÿ"⟩]

end PointerBindings.Xml
