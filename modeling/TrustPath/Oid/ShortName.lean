import TrustPath.Oid

/-!
Short names of object identifiers, as they stand in the text of a distinguished
name. They are the shortest names registered for an identifier, in upper case:
those of attribute types, and those of anything else that an attribute may be
labelled with.
-/

namespace TrustPath.Oid

/-- Identifiers that differ in their last arc only, with the name for each such
arc. -/
structure Branch where
  parent : List Nat
  names : List (Nat × String)

/-- The identifiers of a branch, in full. -/
def Branch.entries (branch : Branch) : List (Oid × String) :=
  branch.names.filterMap fun (arc, name) =>
    (ofArcs? (branch.parent ++ [arc])).map (·, name)

/-- Attribute types of the directory, among them those of names of people and
organizations, and their collective forms. -/
def directoryTypes : List Branch :=
  [⟨[2, 5, 4],
      [(0, "OBJECTCLASS"), (1, "ALIASEDOBJECTNAME"),
        (2, "KNOWLEDGEINFORMATION"), (3, "CN"),
        (4, "SN"), (5, "SERIALNUMBER"), (6, "C"), (7, "L"), (8, "ST"),
        (9, "STREET"), (10, "O"), (11, "OU"), (12, "TITLE"),
        (13, "DESCRIPTION"), (14, "SEARCHGUIDE"),
        (15, "BUSINESSCATEGORY"), (16, "POSTALADDRESS"), (17, "POSTALCODE"),
        (18, "POSTOFFICEBOX"), (19, "PHYSICALDELIVERYOFFICENAME"),
        (20, "TELEPHONENUMBER"), (21, "TELEXNUMBER"),
        (22, "TELETEXTERMINALIDENTIFIER"), (23, "FACSIMILETELEPHONENUMBER"),
        (24, "X121ADDRESS"), (25, "INTERNATIONALISDNNUMBER"),
        (26, "REGISTEREDADDRESS"), (27, "DESTINATIONINDICATOR"),
        (28, "PREFERREDDELIVERYMETHOD"), (29, "PRESENTATIONADDRESS"),
        (30, "SUPPORTEDAPPLICATIONCONTEXT"), (31, "MEMBER"),
        (32, "OWNER"), (33, "ROLEOCCUPANT"), (34, "SEEALSO"),
        (35, "USERPASSWORD"), (36, "USERCERTIFICATE"), (37, "CACERTIFICATE"),
        (38, "AUTHORITYREVOCATIONLIST"), (39, "CERTIFICATEREVOCATIONLIST"),
        (40, "CROSSCERTIFICATEPAIR"), (41, "NAME"),
        (42, "GIVENNAME"), (43, "INITIALS"), (44, "GENERATIONQUALIFIER"),
        (45, "X500UNIQUEIDENTIFIER"), (46, "DNQUALIFIER"),
        (47, "ENHANCEDSEARCHGUIDE"), (48, "PROTOCOLINFORMATION"),
        (49, "DISTINGUISHEDNAME"), (50, "UNIQUEMEMBER"),
        (51, "HOUSEIDENTIFIER"), (52, "SUPPORTEDALGORITHMS"),
        (53, "DELTAREVOCATIONLIST"), (54, "DMDNAME"), (55, "ID-AT-CLEARANCE"),
        (65, "PSEUDONYM"), (72, "ID-AT-ROLE")]⟩,
    ⟨[1, 2, 840, 113549, 1, 9],
      [(1, "EMAIL"), (3, "ID-CONTENTTYPE"), (4, "ID-MESSAGEDIGEST"),
        (5, "ID-SIGNINGTIME"), (6, "ID-COUNTERSIGNATURE"),
        (14, "ID-EXTENSIONREQ"), (15, "SMIMECAPABILITIES"), (16, "ID-SMIME")]⟩,
    ⟨[2, 5, 4, 7], [(1, "C-L")]⟩,
    ⟨[2, 5, 4, 8], [(1, "C-ST")]⟩,
    ⟨[2, 5, 4, 9], [(1, "C-STREET")]⟩,
    ⟨[2, 5, 4, 10], [(1, "C-O")]⟩,
    ⟨[2, 5, 4, 11], [(1, "C-OU")]⟩,
    ⟨[2, 5, 4, 16], [(1, "C-POSTALADDRESS")]⟩,
    ⟨[2, 5, 4, 17], [(1, "C-POSTALCODE")]⟩,
    ⟨[2, 5, 4, 18], [(1, "C-POSTOFFICEBOX")]⟩,
    ⟨[2, 5, 4, 19], [(1, "C-PHYSICALDELIVERYOFFICE")]⟩,
    ⟨[2, 5, 4, 20], [(1, "C-TELEPHONENUMBER")]⟩,
    ⟨[2, 5, 4, 21], [(1, "C-TELEXNUMBER")]⟩,
    ⟨[2, 5, 4, 23], [(1, "C-FACSIMILETELEPHONENUMBER")]⟩,
    ⟨[2, 5, 4, 25], [(1, "C-INTERNATIONALISDNNUMBER")]⟩]

/-- Attribute types and object classes of the first directory pilot, still in
use for domain names, mail and user names. -/
def pilotTypes : List Branch :=
  [⟨[0, 9, 2342, 19200300, 100, 1],
      [(1, "UID"), (2, "TEXTENCODEDORADDRESS"), (3, "MAIL"), (4, "INFO"),
        (5, "DRINK"), (6, "ROOMNUMBER"), (7, "PHOTO"), (8, "USERCLASS"),
        (9, "HOST"), (10, "MANAGER"), (11, "DOCUMENTIDENTIFIER"),
        (12, "DOCUMENTTITLE"), (13, "DOCUMENTVERSION"),
        (14, "DOCUMENTAUTHOR"), (15, "DOCUMENTLOCATION"), (20, "HOMEPHONE"),
        (21, "SECRETARY"), (22, "OTHERMAILBOX"), (23, "LASTMODIFIEDTIME"),
        (24, "LASTMODIFIEDBY"), (25, "DC"),
        (26, "ARECORD"), (27, "MDRECORD"), (28, "MXRECORD"), (29, "NSRECORD"),
        (30, "SOARECORD"), (31, "CNAMERECORD"), (37, "ASSOCIATEDDOMAIN"),
        (38, "ASSOCIATEDNAME"), (39, "HOMEPOSTALADDRESS"),
        (40, "PERSONALTITLE"), (41, "MOBILE"), (42, "PAGER"),
        (43, "CO"), (44, "UNIQUEIDENTIFIER"), (45, "ORGANIZATIONALSTATUS"),
        (46, "JANETMAILBOX"), (47, "MAILPREFERENCEOPTION"),
        (48, "BUILDINGNAME"), (49, "DSAQUALITY"),
        (50, "SINGLELEVELQUALITY"), (51, "SUBTREEMINIMUMQUALITY"),
        (52, "SUBTREEMAXIMUMQUALITY"), (53, "PERSONALSIGNATURE"),
        (54, "DITREDIRECT"), (55, "AUDIO"), (56, "DOCUMENTPUBLISHER"),
        (60, "JPEGPHOTO")]⟩,
    ⟨[0, 9, 2342, 19200300, 100, 4],
      [(3, "PILOTOBJECT"), (4, "PILOTPERSON"), (5, "ACCOUNT"), (6, "DOCUMENT"),
        (7, "ROOM"), (8, "DOCUMENTSERIES"), (13, "DOMAIN"),
        (14, "RFC822LOCALPART"), (15, "DNSDOMAIN"),
        (17, "DOMAINRELATEDOBJECT"), (18, "FRIENDLYCOUNTRY"),
        (19, "SIMPLESECURITYOBJECT"), (20, "PILOTORGANIZATION"),
        (21, "PILOTDSA"), (22, "QUALITYLABELLEDDATA")]⟩]

/-- Attribute types of directory services: what they record of entries, of their
schema and of themselves, and what their users keep there. -/
def serviceTypes : List Branch :=
  [⟨[2, 5, 18],
      [(1, "CREATETIMESTAMP"), (2, "MODIFYTIMESTAMP"), (3, "CREATORSNAME"),
        (4, "MODIFIERSNAME"), (5, "ADMINISTRATIVEROLE"),
        (6, "SUBTREESPECIFICATION"), (7, "COLLECTIVEEXCLUSIONS"),
        (10, "SUBSCHEMASUBENTRY"), (12, "COLLECTIVEATTRIBUTESUBENTRIES")]⟩,
    ⟨[2, 5, 21],
      [(1, "DITSTRUCTURERULES"), (2, "DITCONTENTRULES"), (4, "MATCHINGRULES"),
        (5, "ATTRIBUTETYPES"), (6, "OBJECTCLASSES"), (7, "NAMEFORMS"),
        (8, "MATCHINGRULEUSE"), (9, "STRUCTURALOBJECTCLASS"),
        (10, "GOVERNINGSTRUCTURERULE")]⟩,
    ⟨[1, 3, 6, 1, 1], [(4, "VENDORNAME"), (5, "VENDORVERSION"),
      (20, "ENTRYDN")]⟩,
    ⟨[1, 3, 6, 1, 1, 3], [(1, "UIDOBJECT")]⟩,
    ⟨[1, 3, 6, 1, 1, 16],
      [(2, "UUIDMATCH"), (3, "UUIDORDERINGMATCH"), (4, "ENTRYUUID")]⟩,
    ⟨[1, 3, 6, 1, 1, 23], [(1, "JIDOBJECT"), (2, "JID")]⟩,
    ⟨[1, 3, 6, 1, 4, 1, 11, 1, 3, 1, 1],
      [(0, "DEFAULTSERVERLIST"), (1, "DEFAULTSEARCHBASE"),
        (2, "PREFERREDSERVERLIST"), (3, "SEARCHTIMELIMIT"),
        (4, "BINDTIMELIMIT"), (5, "FOLLOWREFERRALS"),
        (6, "AUTHENTICATIONMETHOD"), (7, "PROFILETTL"), (9, "ATTRIBUTEMAP"),
        (10, "CREDENTIALLEVEL"), (11, "OBJECTCLASSMAP"),
        (12, "DEFAULTSEARCHSCOPE"), (13, "SERVICECREDENTIALLEVEL"),
        (14, "SERVICESEARCHDESCRIPTOR"), (15, "SERVICEAUTHENTICATIONMETHOD"),
        (16, "DEREFERENCEALIASES")]⟩,
    ⟨[1, 3, 6, 1, 4, 1, 11, 1, 3, 1, 2], [(4, "DUACONFIGPROFILE")]⟩,
    ⟨[1, 3, 6, 1, 4, 1, 250, 1], [(57, "LABELEDURI")]⟩,
    ⟨[1, 3, 6, 1, 4, 1, 250, 3], [(15, "LABELEDURIOBJECT")]⟩,
    ⟨[1, 3, 6, 1, 4, 1, 1466], [(344, "DCOBJECT"), (345, "DOMAINNAMEFORM")]⟩,
    ⟨[1, 3, 6, 1, 4, 1, 1466, 101, 119],
      [(2, "DYNAMICOBJECT"), (3, "ENTRYTTL"), (4, "DYNAMICSUBTREES")]⟩,
    ⟨[1, 3, 6, 1, 4, 1, 1466, 101, 120],
      [(5, "NAMINGCONTEXTS"), (6, "ALTSERVER"), (7, "SUPPORTEDEXTENSION"),
        (13, "SUPPORTEDCONTROL"), (14, "SUPPORTEDSASLMECHANISMS"),
        (15, "SUPPORTEDLDAPVERSION"), (16, "LDAPSYNTAXES"),
        (111, "EXTENSIBLEOBJECT")]⟩,
    ⟨[1, 3, 6, 1, 4, 1, 4203, 1, 3],
      [(4, "AUTHPASSWORD"), (5, "SUPPORTEDFEATURES")]⟩,
    ⟨[1, 3, 6, 1, 4, 1, 4203, 1, 2],
      [(2, "AUTHPASSWORDEXACTMATCH"), (3, "AUTHPASSWORDMATCH")]⟩,
    ⟨[1, 3, 6, 1, 4, 1, 4203, 1, 4], [(7, "AUTHPASSWORDOBJECT")]⟩,
    ⟨[1, 2, 840, 113556, 1, 4],
      [(478, "CALCALURI"), (479, "CALFBURL"), (480, "CALCAPURI"),
        (481, "CALCALADRURI"), (482, "CALOTHERCALURIS"),
        (483, "CALOTHERFBURLS"), (484, "CALOTHERCAPURIS"),
        (485, "CALOTHERCALADRURIS")]⟩,
    ⟨[1, 2, 840, 113556, 1, 5], [(87, "CALENTRY")]⟩,
    ⟨[2, 16, 840, 1, 113730, 3, 1],
      [(1, "CARLICENSE"), (2, "DEPARTMENTNUMBER"), (3, "EMPLOYEENUMBER"),
        (4, "EMPLOYEETYPE"), (34, "REF"), (39, "PREFERREDLANGUAGE"),
        (40, "USERSMIMECERTIFICATE"), (216, "USERPKCS12"),
        (241, "DISPLAYNAME")]⟩,
    ⟨[2, 16, 840, 1, 113730, 3, 2], [(2, "INETORGPERSON"), (6, "REFERRAL")]⟩]

/-- Object classes of the directory, and the rules by which values are matched
there. -/
def classes : List Branch :=
  [⟨[2, 5, 6],
      [(0, "TOP"), (1, "ALIAS"), (2, "COUNTRY"), (3, "LOCALITY"),
        (4, "ORGANIZATION"), (5, "ORGANIZATIONALUNIT"), (6, "PERSON"),
        (7, "ORGANIZATIONALPERSON"), (8, "ORGANIZATIONALROLE"),
        (9, "GROUPOFNAMES"), (10, "RESIDENTIALPERSON"),
        (11, "APPLICATIONPROCESS"), (12, "APPLICATIONENTITY"), (13, "DSA"),
        (14, "DEVICE"), (15, "STRONGAUTHENTICATIONUSER"),
        (16, "CERTIFICATIONAUTHORITY"), (17, "GROUPOFUNIQUENAMES"),
        (18, "USERSECURITYINFORMATION"), (19, "CRLDISTRIBUTIONPOINT"),
        (20, "DMD"), (21, "PKIUSER"), (22, "PKICA"), (23, "DELTACRL")]⟩,
    ⟨[2, 5, 6, 16], [(2, "CERTIFICATIONAUTHORITY-V2")]⟩,
    ⟨[2, 5, 17], [(0, "SUBENTRY"), (2, "COLLECTIVEATTRIBUTESUBENTRY")]⟩,
    ⟨[2, 5, 20], [(1, "SUBSCHEMA")]⟩,
    ⟨[2, 5, 13],
      [(0, "OBJECTIDENTIFIERMATCH"), (1, "DISTINGUISHEDNAMEMATCH"),
        (2, "CASEIGNOREMATCH"), (3, "CASEIGNOREORDERINGMATCH"),
        (4, "CASEIGNORESUBSTRINGSMATCH"), (5, "CASEEXACTMATCH"),
        (6, "CASEEXACTORDERINGMATCH"), (7, "CASEEXACTSUBSTRINGSMATCH"),
        (8, "NUMERICSTRINGMATCH"), (9, "NUMERICSTRINGORDERINGMATCH"),
        (10, "NUMERICSTRINGSUBSTRINGSMATCH"),
        (11, "CASEIGNORELISTMATCH"), (12, "CASEIGNORELISTSUBSTRINGSMATCH"),
        (13, "BOOLEANMATCH"), (14, "INTEGERMATCH"),
        (15, "INTEGERORDERINGMATCH"), (16, "BITSTRINGMATCH"),
        (17, "OCTETSTRINGMATCH"), (18, "OCTETSTRINGORDERINGMATCH"),
        (19, "OCTETSTRINGSUBSTRINGSMATCH"), (20, "TELEPHONENUMBERMATCH"),
        (21, "TELEPHONENUMBERSUBSTRINGSMATCH"), (23, "UNIQUEMEMBERMATCH"),
        (27, "GENERALIZEDTIMEMATCH"), (28, "GENERALIZEDTIMEORDERINGMATCH"),
        (29, "INTEGERFIRSTCOMPONENTMATCH"),
        (30, "OBJECTIDENTIFIERFIRSTCOMPONENTMATCH"),
        (31, "DIRECTORYSTRINGFIRSTCOMPONENTMATCH"), (32, "WORDMATCH"),
        (33, "KEYWORDMATCH"), (34, "CERTIFICATEEXACTMATCH"),
        (35, "CERTIFICATEMATCH"), (36, "CERTIFICATEPAIREXACTMATCH"),
        (37, "CERTIFICATEPAIRMATCH"), (38, "CERTIFICATELISTEXACTMATCH"),
        (39, "CERTIFICATELISTMATCH"), (40, "ALGORITHMIDENTIFIERMATCH"),
        (41, "STOREDPREFIXMATCH")]⟩,
    ⟨[1, 3, 6, 1, 4, 1, 1466, 109, 114],
      [(1, "CASEEXACTIA5MATCH"), (2, "CASEIGNOREIA5MATCH"),
        (3, "CASEIGNOREIA5SUBSTRINGSMATCH")]⟩,
    ⟨[1, 2, 36, 79672281, 1, 13],
      [(2, "COMPONENTFILTERMATCH"), (3, "RDNMATCH"), (5, "PRESENTMATCH"),
        (6, "ALLCOMPONENTSMATCH"), (7, "DIRECTORYCOMPONENTSMATCH")]⟩]

/-- Tables kept in a directory, and gateways between the Internet and other mail
systems. -/
def tables : List Branch :=
  [⟨[1, 3, 6, 1, 4, 1, 453, 7, 1],
      [(1, "SUBTREE"), (2, "TABLE"), (3, "TABLEENTRY"), (4, "MIXERGATEWAY"),
        (5, "DISTINGUISHEDNAMETABLEENTRY")]⟩,
    ⟨[1, 3, 6, 1, 4, 1, 453, 7, 2],
      [(1, "TEXTTABLEKEY"), (2, "TEXTTABLEVALUE"), (3, "ASSOCIATEDX400GATEWAY"),
        (6, "ASSOCIATEDORADDRESS"), (7, "ORADDRESSCOMPONENTTYPE"),
        (8, "ASSOCIATEDINTERNETGATEWAY"), (9, "MCGAMTABLES")]⟩]

/-- Rules, conditions and actions of policies that are kept in a directory. -/
def policySchema : List Branch :=
  [⟨[1, 3, 6, 1, 1, 6, 1],
      [(1, "PCIMPOLICY"), (2, "PCIMGROUP"), (3, "PCIMGROUPAUXCLASS"),
        (4, "PCIMGROUPINSTANCE"), (5, "PCIMRULE"), (6, "PCIMRULEAUXCLASS"),
        (7, "PCIMRULEINSTANCE"), (8, "PCIMRULECONDITIONASSOCIATION"),
        (9, "PCIMRULEVALIDITYASSOCIATION"),
        (10, "PCIMRULEACTIONASSOCIATION"), (11, "PCIMCONDITIONAUXCLASS"),
        (12, "PCIMTPCAUXCLASS"), (13, "PCIMCONDITIONVENDORAUXCLASS"),
        (14, "PCIMACTIONAUXCLASS"), (15, "PCIMACTIONVENDORAUXCLASS"),
        (16, "PCIMPOLICYINSTANCE"), (17, "PCIMELEMENTAUXCLASS"),
        (18, "PCIMREPOSITORY"), (19, "PCIMREPOSITORYAUXCLASS"),
        (20, "PCIMREPOSITORYINSTANCE"), (21, "PCIMSUBTREESPTRAUXCLASS"),
        (22, "PCIMGROUPCONTAINMENTAUXCLASS"),
        (23, "PCIMRULECONTAINMENTAUXCLASS")]⟩,
    ⟨[1, 3, 6, 1, 1, 6, 2],
      [(3, "PCIMKEYWORDS"), (4, "PCIMGROUPNAME"), (5, "PCIMRULENAME"),
        (6, "PCIMRULEENABLED"), (7, "PCIMRULECONDITIONLISTTYPE"),
        (8, "PCIMRULECONDITIONLIST"), (9, "PCIMRULEACTIONLIST"),
        (10, "PCIMRULEVALIDITYPERIODLIST"), (11, "PCIMRULEUSAGE"),
        (12, "PCIMRULEPRIORITY"), (13, "PCIMRULEMANDATORY"),
        (14, "PCIMRULESEQUENCEDACTIONS"), (15, "PCIMROLES"),
        (16, "PCIMCONDITIONGROUPNUMBER"), (17, "PCIMCONDITIONNEGATED"),
        (18, "PCIMCONDITIONNAME"), (19, "PCIMCONDITIONDN"),
        (20, "PCIMVALIDITYCONDITIONNAME"),
        (21, "PCIMTIMEPERIODCONDITIONDN"), (22, "PCIMACTIONNAME"),
        (23, "PCIMACTIONORDER"), (24, "PCIMACTIONDN"), (25, "PCIMTPCTIME"),
        (26, "PCIMTPCMONTHOFYEARMASK"), (27, "PCIMTPCDAYOFMONTHMASK"),
        (28, "PCIMTPCDAYOFWEEKMASK"), (29, "PCIMTPCTIMEOFDAYMASK"),
        (30, "PCIMTPCLOCALORUTCTIME"), (31, "PCIMVENDORCONSTRAINTDATA"),
        (32, "PCIMVENDORCONSTRAINTENCODING"), (33, "PCIMVENDORACTIONDATA"),
        (34, "PCIMVENDORACTIONENCODING"), (35, "PCIMPOLICYINSTANCENAME"),
        (36, "PCIMREPOSITORYNAME"), (37, "PCIMSUBTREESAUXCONTAINEDSET"),
        (38, "PCIMGROUPSAUXCONTAINEDSET"), (39, "PCIMRULESAUXCONTAINEDSET")]⟩,
    ⟨[1, 3, 6, 1, 1, 9, 1],
      [(1, "PCELSPOLICYSET"), (2, "PCELSPOLICYSETASSOCIATION"),
        (3, "PCELSGROUP"), (4, "PCELSGROUPAUXCLASS"), (5, "PCELSGROUPINSTANCE"),
        (6, "PCELSRULE"), (7, "PCELSRULEAUXCLASS"), (8, "PCELSRULEINSTANCE"),
        (9, "PCELSCONDITIONASSOCIATION"), (10, "PCELSACTIONASSOCIATION"),
        (11, "PCELSSIMPLECONDITIONAUXCLASS"),
        (12, "PCELSCOMPOUNDCONDITIONAUXCLASS"),
        (13, "PCELSCOMPOUNDFILTERCONDITIONAUXCLASS"),
        (14, "PCELSSIMPLEACTIONAUXCLASS"), (15, "PCELSCOMPOUNDACTIONAUXCLASS"),
        (16, "PCELSVARIABLE"), (17, "PCELSEXPLICITVARIABLEAUXCLASS"),
        (18, "PCELSIMPLICITVARIABLEAUXCLASS"),
        (19, "PCELSSOURCEIPV4VARIABLEAUXCLASS"),
        (20, "PCELSSOURCEIPV6VARIABLEAUXCLASS"),
        (21, "PCELSDESTINATIONIPV4VARIABLEAUXCLASS"),
        (22, "PCELSDESTINATIONIPV6VARIABLEAUXCLASS"),
        (23, "PCELSSOURCEPORTVARIABLEAUXCLASS"),
        (24, "PCELSDESTINATIONPORTVARIABLEAUXCLASS"),
        (25, "PCELSIPPROTOCOLVARIABLEAUXCLASS"),
        (26, "PCELSIPVERSIONVARIABLEAUXCLASS"),
        (27, "PCELSIPTOSVARIABLEAUXCLASS"),
        (28, "PCELSDSCPVARIABLEAUXCLASS"), (29, "PCELSFLOWIDVARIABLEAUXCLASS"),
        (30, "PCELSSOURCEMACVARIABLEAUXCLASS"),
        (31, "PCELSDESTINATIONMACVARIABLEAUXCLASS"),
        (32, "PCELSVLANVARIABLEAUXCLASS"), (33, "PCELSCOSVARIABLEAUXCLASS"),
        (34, "PCELSETHERTYPEVARIABLEAUXCLASS"),
        (35, "PCELSSOURCESAPVARIABLEAUXCLASS"),
        (36, "PCELSDESTINATIONSAPVARIABLEAUXCLASS"),
        (37, "PCELSSNAPOUIVARIABLEAUXCLASS"),
        (38, "PCELSSNAPTYPEVARIABLEAUXCLASS"),
        (39, "PCELSFLOWDIRECTIONVARIABLEAUXCLASS"),
        (40, "PCELSVALUEAUXCLASS"), (41, "PCELSIPV4ADDRVALUEAUXCLASS"),
        (42, "PCELSIPV6ADDRVALUEAUXCLASS"), (43, "PCELSMACADDRVALUEAUXCLASS"),
        (44, "PCELSSTRINGVALUEAUXCLASS"), (45, "PCELSBITSTRINGVALUEAUXCLASS"),
        (46, "PCELSINTEGERVALUEAUXCLASS"), (47, "PCELSBOOLEANVALUEAUXCLASS"),
        (48, "PCELSREUSABLECONTAINER"), (49, "PCELSREUSABLECONTAINERAUXCLASS"),
        (50, "PCELSREUSABLECONTAINERINSTANCE"), (51, "PCELSROLECOLLECTION")]⟩,
    ⟨[1, 3, 6, 1, 1, 9, 2],
      [(1, "PCELSPOLICYSETNAME"), (2, "PCELSDECISIONSTRATEGY"),
        (3, "PCELSPOLICYSETLIST"), (4, "PCELSPRIORITY"),
        (5, "PCELSPOLICYSETDN"), (6, "PCELSCONDITIONLISTTYPE"),
        (7, "PCELSCONDITIONLIST"), (8, "PCELSACTIONLIST"),
        (9, "PCELSSEQUENCEDACTIONS"), (10, "PCELSEXECUTIONSTRATEGY"),
        (11, "PCELSVARIABLEDN"), (12, "PCELSVALUEDN"),
        (13, "PCELSISMIRRORED"), (14, "PCELSVARIABLENAME"),
        (15, "PCELSEXPECTEDVALUELIST"), (16, "PCELSVARIABLEMODELCLASS"),
        (17, "PCELSVARIABLEMODELPROPERTY"),
        (18, "PCELSEXPECTEDVALUETYPES"), (19, "PCELSVALUENAME"),
        (20, "PCELSIPV4ADDRLIST"), (21, "PCELSIPV6ADDRLIST"),
        (22, "PCELSMACADDRLIST"), (23, "PCELSSTRINGLIST"),
        (24, "PCELSBITSTRINGLIST"), (25, "PCELSINTEGERLIST"),
        (26, "PCELSBOOLEAN"), (27, "PCELSREUSABLECONTAINERNAME"),
        (28, "PCELSREUSABLECONTAINERLIST"), (29, "PCELSROLE"),
        (30, "PCELSROLECOLLECTIONNAME"), (31, "PCELSELEMENTLIST"),
        (32, "PCELSFILTERNAME"), (33, "PCELSFILTERISNEGATED")]⟩]

/-- Printers, business services, voice mail, certified mail and federated file
systems, as they are described in a directory. -/
def serviceSchemas : List Branch :=
  [⟨[1, 3, 18, 0, 2, 4],
      [(1107, "PRINTER-XRI-SUPPORTED"), (1108, "PRINTER-ALIASES"),
        (1109, "PRINTER-CHARSET-CONFIGURED"),
        (1110, "PRINTER-JOB-PRIORITY-SUPPORTED"),
        (1111, "PRINTER-JOB-K-OCTETS-SUPPORTED"),
        (1112, "PRINTER-CURRENT-OPERATOR"),
        (1113, "PRINTER-SERVICE-PERSON"),
        (1114, "PRINTER-DELIVERY-ORIENTATION-SUPPORTED"),
        (1115, "PRINTER-STACKING-ORDER-SUPPORTED"),
        (1116, "PRINTER-OUTPUT-FEATURES-SUPPORTED"),
        (1117, "PRINTER-MEDIA-LOCAL-SUPPORTED"),
        (1118, "PRINTER-COPIES-SUPPORTED"),
        (1119, "PRINTER-NATURAL-LANGUAGE-CONFIGURED"),
        (1120, "PRINTER-PRINT-QUALITY-SUPPORTED"),
        (1121, "PRINTER-RESOLUTION-SUPPORTED"),
        (1122, "PRINTER-MEDIA-SUPPORTED"),
        (1123, "PRINTER-SIDES-SUPPORTED"),
        (1124, "PRINTER-NUMBER-UP-SUPPORTED"),
        (1125, "PRINTER-FINISHINGS-SUPPORTED"),
        (1126, "PRINTER-PAGES-PER-MINUTE-COLOR"),
        (1127, "PRINTER-PAGES-PER-MINUTE"),
        (1128, "PRINTER-COMPRESSION-SUPPORTED"),
        (1129, "PRINTER-COLOR-SUPPORTED"),
        (1130, "PRINTER-DOCUMENT-FORMAT-SUPPORTED"),
        (1131, "PRINTER-CHARSET-SUPPORTED"),
        (1132, "PRINTER-MULTIPLE-DOCUMENT-JOBS-SUPPORTED"),
        (1133, "PRINTER-IPP-VERSIONS-SUPPORTED"), (1134, "PRINTER-MORE-INFO"),
        (1135, "PRINTER-NAME"), (1136, "PRINTER-LOCATION"),
        (1137, "PRINTER-GENERATED-NATURAL-LANGUAGE-SUPPORTED"),
        (1138, "PRINTER-MAKE-AND-MODEL"), (1139, "PRINTER-INFO"),
        (1140, "PRINTER-URI")]⟩,
    ⟨[1, 3, 18, 0, 2, 6],
      [(253, "PRINTERLPR"), (254, "SLPSERVICEPRINTER"), (255, "PRINTERSERVICE"),
        (256, "PRINTERIPP"), (257, "PRINTERSERVICEAUXCLASS"),
        (258, "PRINTERABSTRACT")]⟩,
    ⟨[1, 3, 18, 0, 2, 24, 46, 1],
      [(101, "PRINTER-DEVICE-ID"), (102, "PRINTER-DEVICE-SERVICE-COUNT"),
        (104, "PRINTER-UUID"), (105, "PRINTER-CHARGE-INFO"),
        (106, "PRINTER-CHARGE-INFO-URI"), (107, "PRINTER-GEO-LOCATION"),
        (108, "PRINTER-IPP-FEATURES-SUPPORTED")]⟩,
    ⟨[1, 3, 6, 1, 1, 10, 4],
      [(1, "UDDIBUSINESSKEY"), (2, "UDDIAUTHORIZEDNAME"), (3, "UDDIOPERATOR"),
        (4, "UDDINAME"), (5, "UDDIDESCRIPTION"), (6, "UDDIDISCOVERYURLS"),
        (7, "UDDIUSETYPE"), (8, "UDDIPERSONNAME"), (9, "UDDIPHONE"),
        (10, "UDDIEMAIL"), (11, "UDDISORTCODE"),
        (12, "UDDITMODELKEY"), (13, "UDDIADDRESSLINE"),
        (14, "UDDIIDENTIFIERBAG"), (15, "UDDICATEGORYBAG"),
        (16, "UDDIKEYEDREFERENCE"), (17, "UDDISERVICEKEY"),
        (18, "UDDIBINDINGKEY"), (19, "UDDIACCESSPOINT"),
        (20, "UDDIHOSTINGREDIRECTOR"), (21, "UDDIINSTANCEDESCRIPTION"),
        (22, "UDDIINSTANCEPARMS"), (23, "UDDIOVERVIEWDESCRIPTION"),
        (24, "UDDIOVERVIEWURL"), (25, "UDDIFROMKEY"),
        (26, "UDDITOKEY"), (27, "UDDIUUID"), (28, "UDDIISHIDDEN"),
        (29, "UDDIISPROJECTION"), (30, "UDDILANG"), (31, "UDDIV3BUSINESSKEY"),
        (32, "UDDIV3SERVICEKEY"), (33, "UDDIV3BINDINGKEY"),
        (34, "UDDIV3TMODELKEY"), (35, "UDDIV3DIGITALSIGNATURE"),
        (36, "UDDIV3NODEID"), (37, "UDDIV3ENTITYMODIFICATIONTIME"),
        (38, "UDDIV3SUBSCRIPTIONKEY"), (39, "UDDIV3SUBSCRIPTIONFILTER"),
        (40, "UDDIV3NOTIFICATIONINTERVAL"),
        (41, "UDDIV3MAXENTITIES"), (42, "UDDIV3EXPIRESAFTER"),
        (43, "UDDIV3BRIEFRESPONSE"), (44, "UDDIV3ENTITYKEY"),
        (45, "UDDIV3ENTITYCREATIONTIME"), (46, "UDDIV3ENTITYDELETIONTIME")]⟩,
    ⟨[1, 3, 6, 1, 1, 10, 6],
      [(1, "UDDIBUSINESSENTITY"), (2, "UDDICONTACT"), (3, "UDDIADDRESS"),
        (4, "UDDIBUSINESSSERVICE"), (5, "UDDIBINDINGTEMPLATE"),
        (6, "UDDITMODELINSTANCEINFO"), (7, "UDDITMODEL"),
        (8, "UDDIPUBLISHERASSERTION"), (9, "UDDIV3SUBSCRIPTION"),
        (10, "UDDIV3ENTITYOBITUARY")]⟩,
    ⟨[1, 3, 6, 1, 1, 10, 15],
      [(1, "UDDIBUSINESSENTITYNAMEFORM"), (2, "UDDICONTACTNAMEFORM"),
        (3, "UDDIADDRESSNAMEFORM"), (4, "UDDIBUSINESSSERVICENAMEFORM"),
        (5, "UDDIBINDINGTEMPLATENAMEFORM"),
        (6, "UDDITMODELINSTANCEINFONAMEFORM"), (7, "UDDITMODELNAMEFORM"),
        (8, "UDDIPUBLISHERASSERTIONNAMEFORM"),
        (9, "UDDIV3SUBSCRIPTIONNAMEFORM"),
        (10, "UDDIV3ENTITYOBITUARYNAMEFORM")]⟩,
    ⟨[1, 3, 6, 1, 1, 11, 1], [(1, "VPIMUSER")]⟩,
    ⟨[1, 3, 6, 1, 1, 11, 2],
      [(1, "VPIMTELEPHONENUMBER"), (2, "VPIMRFC822MAILBOX"),
        (3, "VPIMSPOKENNAME"), (4, "VPIMSUPPORTEDUABEHAVIORS"),
        (5, "VPIMSUPPORTEDAUDIOMEDIATYPES"),
        (6, "VPIMSUPPORTEDMESSAGECONTEXT"), (7, "VPIMTEXTNAME"),
        (8, "VPIMEXTENDEDABSENCESTATUS"), (9, "VPIMMAXMESSAGESIZE"),
        (10, "VPIMSUBMAILBOXES")]⟩,
    ⟨[1, 3, 6, 1, 4, 1, 16572, 2, 1],
      [(1, "LDIFLOCATIONURLOBJECT"), (2, "PROVIDER")]⟩,
    ⟨[1, 3, 6, 1, 4, 1, 16572, 2, 2],
      [(1, "PROVIDERCERTIFICATEHASH"), (2, "PROVIDERCERTIFICATE"),
        (3, "PROVIDERNAME"), (4, "MAILRECEIPT"), (5, "MANAGEDDOMAINS"),
        (6, "LDIFLOCATIONURL"), (7, "PROVIDERUNIT")]⟩,
    ⟨[1, 3, 6, 1, 4, 1, 31103, 1],
      [(1, "FEDFSUUID"), (2, "FEDFSNETADDR"), (3, "FEDFSNETPORT"),
        (4, "FEDFSFSNUUID"), (5, "FEDFSNSDBNAME"), (6, "FEDFSNSDBPORT"),
        (7, "FEDFSNCEPREFIX"), (8, "FEDFSFSLUUID"),
        (9, "FEDFSFSLHOST"), (10, "FEDFSFSLPORT"), (11, "FEDFSFSLTTL"),
        (12, "FEDFSANNOTATION"), (13, "FEDFSDESCR"), (14, "FEDFSNCEDN"),
        (15, "FEDFSFSNTTL"), (100, "FEDFSNFSPATH"),
        (101, "FEDFSNFSMAJORVER"), (102, "FEDFSNFSMINORVER"),
        (103, "FEDFSNFSCURRENCY"), (104, "FEDFSNFSGENFLAGWRITABLE"),
        (105, "FEDFSNFSGENFLAGGOING"), (106, "FEDFSNFSGENFLAGSPLIT"),
        (107, "FEDFSNFSTRANSFLAGRDMA"), (108, "FEDFSNFSCLASSSIMUL"),
        (109, "FEDFSNFSCLASSHANDLE"), (110, "FEDFSNFSCLASSFILEID"),
        (111, "FEDFSNFSCLASSWRITEVER"), (112, "FEDFSNFSCLASSCHANGE"),
        (113, "FEDFSNFSCLASSREADDIR"), (114, "FEDFSNFSREADRANK"),
        (115, "FEDFSNFSREADORDER"), (116, "FEDFSNFSWRITERANK"),
        (117, "FEDFSNFSWRITEORDER"), (118, "FEDFSNFSVARSUB"),
        (119, "FEDFSNFSVALIDFOR"), (120, "FEDFSNFSURI"),
        (1001, "FEDFSNSDBCONTAINERINFO"), (1002, "FEDFSFSN"),
        (1003, "FEDFSFSL"), (1004, "FEDFSNFSFSL")]⟩]

/-- Extensions of certificates and of revocation lists, and the values they
name. -/
def extensions : List Branch :=
  [⟨[2, 5, 29],
      [(9, "ID-CE-SUBJECTDIRECTORYATTRIBUTES"),
        (14, "ID-CE-SUBJECTKEYIDENTIFIER"),
        (15, "ID-CE-KEYUSAGE"), (16, "ID-CE-PRIVATEKEYUSAGEPERIOD"),
        (17, "ID-CE-SUBJECTALTNAME"), (18, "ID-CE-ISSUERALTNAME"),
        (19, "ID-CE-BASICCONSTRAINTS"), (20, "ID-CE-CRLNUMBER"),
        (21, "ID-CE-CRLREASONS"), (23, "ID-CE-HOLDINSTRUCTIONCODE"),
        (24, "ID-CE-INVALIDITYDATE"), (27, "ID-CE-DELTACRLINDICATOR"),
        (28, "ID-CE-ISSUINGDISTRIBUTIONPOINT"),
        (29, "ID-CE-CERTIFICATEISSUER"), (30, "ID-CE-NAMECONSTRAINTS"),
        (31, "ID-CE-CRLDISTRIBUTIONPOINTS"), (32, "ID-CE-CERTIFICATEPOLICIES"),
        (33, "ID-CE-POLICYMAPPINGS"), (35, "ID-CE-AUTHORITYKEYIDENTIFIER"),
        (36, "ID-CE-POLICYCONSTRAINTS"), (37, "ID-CE-EXTKEYUSAGE"),
        (46, "ID-CE-FRESHESTCRL"), (54, "ID-CE-INHIBITANYPOLICY"),
        (55, "ID-CE-TARGETINFORMATION"), (56, "ID-CE-NOREVAVAIL")]⟩,
    ⟨[2, 5, 29, 32], [(0, "ANYPOLICY")]⟩,
    ⟨[2, 5, 29, 37], [(0, "ANYEXTENDEDKEYUSAGE")]⟩,
    ⟨[1, 3, 6, 1, 5, 5], [(7, "ID-PKIX")]⟩,
    ⟨[1, 3, 6, 1, 5, 5, 7],
      [(0, "ID-MOD"), (1, "ID-PE"), (2, "ID-QT"), (3, "ID-KP"), (4, "ID-IT"),
        (5, "ID-PKIP"), (6, "ID-ALG"), (7, "ID-CMC"), (8, "ID-ON"),
        (9, "ID-PDA"), (10, "ID-ACA"), (11, "ID-QCS"),
        (12, "ID-CCT"), (13, "ID-TEST"), (14, "ID-CP"), (15, "ID-CET"),
        (16, "ID-RI"), (17, "ID-STC"), (18, "ID-SWB"), (19, "ID-SVP"),
        (20, "ID-LOGO"), (21, "ID-PPL"), (22, "ID-MR"), (23, "ID-SKIS"),
        (48, "ID-AD")]⟩,
    ⟨[1, 3, 6, 1, 5, 5, 7, 1],
      [(1, "ID-PE-AUTHORITYINFOACCESS"), (4, "ID-PE-AC-AUDITIDENTITY"),
        (6, "ID-PE-AACONTROLS"), (7, "ID-PE-IPADDRBLOCKS"),
        (8, "ID-PE-AUTONOMOUSSYSIDS"), (10, "ID-PE-AC-PROXYING"),
        (11, "ID-PE-SUBJECTINFOACCESS"), (13, "ID-PE-WLANSSID")]⟩,
    ⟨[1, 3, 6, 1, 5, 5, 7, 2], [(1, "ID-QT-CPS"), (2, "ID-QT-UNOTICE")]⟩,
    ⟨[1, 3, 6, 1, 5, 5, 7, 3],
      [(1, "ID-KP-SERVERAUTH"), (2, "ID-KP-CLIENTAUTH"),
        (3, "ID-KP-CODESIGNING"), (4, "ID-KP-EMAILPROTECTION"),
        (8, "ID-KP-TIMESTAMPING"), (9, "ID-KP-OCSPSIGNING"),
        (13, "ID-KP-EAPOVERPPP"), (14, "ID-KP-EAPOVERLAN"),
        (15, "ID-KP-SCVPSERVER"), (16, "ID-KP-SCVPCLIENT")]⟩,
    ⟨[1, 3, 6, 1, 5, 5, 7, 8], [(4, "ID-ON-HARDWAREMODULENAME")]⟩,
    ⟨[1, 3, 6, 1, 5, 5, 7, 10],
      [(1, "ID-ACA-AUTHENTICATIONINFO"), (2, "ID-ACA-ACCESSIDENTITY"),
        (3, "ID-ACA-CHARGINGIDENTITY"), (4, "ID-ACA-GROUP"),
        (6, "ID-ACA-ENCATTRS"), (7, "ID-ACA-WLANSSID")]⟩,
    ⟨[1, 3, 6, 1, 5, 5, 7, 48],
      [(1, "ID-AD-OCSP"), (2, "ID-AD-CAISSUERS"), (3, "ID-AD-TIMESTAMPING"),
        (5, "ID-AD-CAREPOSITORY")]⟩,
    ⟨[1, 3, 6, 1, 5, 5, 7, 48, 1],
      [(1, "ID-PKIX-OCSP-BASIC"), (2, "ID-PKIX-OCSP-NONCE"),
        (3, "ID-PKIX-OCSP-CRL"), (4, "ID-PKIX-OCSP-RESPONSE"),
        (5, "ID-PKIX-OCSP-NOCHECK"), (6, "ID-PKIX-OCSP-ARCHIVE-CUTOFF"),
        (7, "ID-PKIX-OCSP-SERVICE-LOCATOR"),
        (8, "ID-PKIX-OCSP-PREF-SIG-ALGS"),
        (9, "ID-PKIX-OCSP-EXTENDED-REVOKE")]⟩,
    ⟨[2, 2, 840, 10040], [(2, "HOLDINSTRUCTION")]⟩,
    ⟨[2, 2, 840, 10040, 2],
      [(1, "ID-HOLDINSTRUCTION-NONE"), (2, "ID-HOLDINSTRUCTION-CALLISSUER"),
        (3, "ID-HOLDINSTRUCTION-REJECT")]⟩,
    ⟨[1, 3, 6, 1, 4, 1], [(11129, "GOOGLE")]⟩,
    ⟨[1, 3, 6, 1, 4, 1, 11129, 2, 4],
      [(2, "CT-PRECERT-SCTS"), (3, "CT-PRECERT-POISON"),
        (4, "CT-PRECERT-SIGNING-CERT")]⟩]

/-- Messages by which certificates are requested, and requests to check
paths. -/
def enrollment : List Branch :=
  [⟨[1, 3, 6, 1, 5, 5, 7, 5], [(1, "ID-REGCTRL"), (2, "ID-REGINFO")]⟩,
    ⟨[1, 3, 6, 1, 5, 5, 7, 5, 1],
      [(1, "ID-REGCTRL-REGTOKEN"), (2, "ID-REGCTRL-AUTHENTICATOR"),
        (3, "ID-REGCTRL-PKIPUBLICATIONINFO"),
        (4, "ID-REGCTRL-PKIARCHIVEOPTIONS"),
        (5, "ID-REGCTRL-OLDCERTID"), (6, "ID-REGCTRL-PROTOCOLENCRKEY")]⟩,
    ⟨[1, 3, 6, 1, 5, 5, 7, 5, 2],
      [(1, "ID-REGINFO-UTF8PAIRS"), (2, "ID-REGINFO-CERTREQ")]⟩,
    ⟨[1, 3, 6, 1, 5, 5, 7, 6], [(2, "ID-ALG-NOSIGNATURE")]⟩,
    ⟨[1, 3, 6, 1, 5, 5, 7, 7],
      [(1, "ID-CMC-STATUSINFO"), (2, "ID-CMC-IDENTIFICATION"),
        (3, "ID-CMC-IDENTITYPROOF"), (4, "ID-CMC-DATARETURN"),
        (5, "ID-CMC-TRANSACTIONID"), (6, "ID-CMC-SENDERNONCE"),
        (7, "ID-CMC-RECIPIENTNONCE"), (8, "ID-CMC-ADDEXTENSIONS"),
        (9, "ID-CMC-ENCRYPTEDPOP"), (10, "ID-CMC-DECRYPTEDPOP"),
        (11, "ID-CMC-LRAPOPWITNESS"), (15, "ID-CMC-GETCERT"),
        (16, "ID-CMC-GETCRL"), (17, "ID-CMC-REVOKEREQUEST"),
        (18, "ID-CMC-REGINFO"), (19, "ID-CMC-RESPONSEINFO"),
        (21, "ID-CMC-QUERYPENDING"), (22, "ID-CMC-POPLINKRANDOM"),
        (23, "ID-CMC-POPLINKWITNESS"), (24, "ID-CMC-CONFIRMCERTACCEPTANCE"),
        (25, "ID-CMC-STATUSINFOV2"), (26, "ID-CMC-TRUSTEDANCHORS"),
        (27, "ID-CMC-AUTHDATA"), (28, "ID-CMC-BATCHREQUESTS"),
        (29, "ID-CMC-BATCHRESPONSES"), (30, "ID-CMC-PUBLISHCERT"),
        (31, "ID-CMC-MODCERTTEMPLATE"), (32, "ID-CMC-CONTROLPROCESSED"),
        (33, "ID-CMC-POPLINKWITNESSV2"), (34, "ID-CMC-IDENTITYPROOFV2"),
        (99, "ID-CMC-GLARR")]⟩,
    ⟨[1, 3, 6, 1, 5, 5, 7, 12],
      [(2, "ID-CCT-PKIDATA"), (3, "ID-CCT-PKIRESPONSE")]⟩,
    ⟨[1, 3, 6, 1, 5, 5, 7, 15], [(1, "ID-CET-SKDFAILINFO")]⟩,
    ⟨[1, 3, 6, 1, 5, 5, 7, 17],
      [(1, "ID-STC-BUILD-PKC-PATH"), (2, "ID-STC-BUILD-VALID-PKC-PATH"),
        (3, "ID-STC-BUILD-STATUS-CHECKED-PKC-PATH"),
        (4, "ID-STC-BUILD-AA-PATH"), (5, "ID-STC-BUILD-VALID-AA-PATH"),
        (6, "ID-STC-BUILD-STATUS-CHECKED-AA-PATH"),
        (7, "ID-STC-STATUS-CHECK-AC-AND-BUILD-STATUS-CHECKED-AA-PATH")]⟩,
    ⟨[1, 3, 6, 1, 5, 5, 7, 18],
      [(1, "ID-SWB-PKC-BEST-CERT-PATH"), (2, "ID-SWB-PKC-REVOCATION-INFO"),
        (4, "ID-SWB-PKC-PUBLIC-KEY-INFO"), (5, "ID-SWB-AA-CERT-PATH"),
        (6, "ID-SWB-AA-REVOCATION-INFO"), (7, "ID-SWB-AC-REVOCATION-INFO"),
        (9, "ID-SWB-RELAYED-RESPONSES"), (10, "ID-SWB-PKC-CERT"),
        (11, "ID-SWB-AC-CERT"), (12, "ID-SWB-PKC-ALL-CERT-PATHS"),
        (13, "ID-SWB-PKC-EE-REVOCATION-INFO"),
        (14, "ID-SWB-PKC-CAS-REVOCATION-INFO"),
        (15, "ID-SWB-PARTIAL-CERT-PATH")]⟩,
    ⟨[1, 3, 6, 1, 5, 5, 7, 19],
      [(1, "ID-SVP-DEFAULTVALPOLICY"), (2, "ID-NVAE"), (3, "ID-BVAE"),
        (4, "ID-DNVAE")]⟩]

/-- Algorithms for keys, signatures, digests and encryption, and named
curves. -/
def algorithms : List Branch :=
  [⟨[1, 2, 840, 113533, 7, 66],
    [(13, "ID-PASSWORDBASEDMAC"), (30, "ID-DHBASEDMAC")]⟩,
    ⟨[1, 2, 840, 113549], [(2, "DIGESTALGORITHM")]⟩,
    ⟨[1, 2, 840, 113549, 1], [(1, "PKCS-1"), (9, "PKCS-9")]⟩,
    ⟨[1, 2, 840, 113549, 1, 1],
      [(1, "RSAENCRYPTION"), (2, "MD2WITHRSAENCRYPTION"),
        (4, "MD5WITHRSAENCRYPTION"), (5, "SHA1WITHRSAENCRYPTION"),
        (7, "ID-RSAES-OAEP"), (8, "ID-MGF1"), (9, "ID-PSPECIFIED"),
        (10, "ID-RSASSA-PSS"), (11, "SHA256WITHRSAENCRYPTION"),
        (12, "SHA384WITHRSAENCRYPTION"), (13, "SHA512WITHRSAENCRYPTION"),
        (14, "SHA224WITHRSAENCRYPTION")]⟩,
    ⟨[1, 2, 840, 113549, 1, 5], [(12, "ID-PBKDF2")]⟩,
    ⟨[1, 2, 840, 113549, 2],
      [(2, "ID-MD2"), (5, "ID-MD5"), (8, "ID-HMACWITHSHA224"),
        (9, "ID-HMACWITHSHA256"), (10, "ID-HMACWITHSHA384"),
        (11, "ID-HMACWITHSHA512")]⟩,
    ⟨[1, 2, 840, 113549, 3], [(2, "RC2-CBC"), (7, "DES-EDE3-CBC")]⟩,
    ⟨[1, 2, 840, 10040, 4], [(1, "ID-DSA"), (3, "DSA-WITH-SHA1")]⟩,
    ⟨[1, 2, 840, 10045, 2], [(1, "ID-ECPUBLICKEY")]⟩,
    ⟨[1, 2, 840, 10045, 3, 1], [(1, "SECP192R1"), (7, "SECP256R1")]⟩,
    ⟨[1, 2, 840, 10045, 4], [(1, "ECDSA-WITH-SHA1")]⟩,
    ⟨[1, 2, 840, 10045, 4, 3],
      [(1, "ECDSA-WITH-SHA224"), (2, "ECDSA-WITH-SHA256"),
        (3, "ECDSA-WITH-SHA384"), (4, "ECDSA-WITH-SHA512")]⟩,
    ⟨[1, 2, 840, 10046, 2], [(1, "DHPUBLICNUMBER")]⟩,
    ⟨[1, 3, 6, 1, 5, 5, 8, 1], [(2, "HMAC-SHA1")]⟩,
    ⟨[1, 3, 14, 3, 2], [(26, "ID-SHA1")]⟩,
    ⟨[1, 3, 101], [(110, "ID-X25519"), (111, "ID-X448"), (112, "ID-ED25519"),
      (113, "ID-ED448")]⟩,
    ⟨[1, 3, 132, 0],
      [(1, "SECT163K1"), (15, "SECT163R2"), (16, "SECT283K1"),
        (17, "SECT283R1"), (26, "SECT233K1"), (27, "SECT233R1"),
        (33, "SECP224R1"), (34, "SECP384R1"),
        (35, "SECP521R1"), (36, "SECT409K1"), (37, "SECT409R1"),
        (38, "SECT571K1"), (39, "SECT571R1")]⟩,
    ⟨[1, 3, 132, 1], [(12, "ID-ECDH"), (13, "ID-ECMQV")]⟩,
    ⟨[1, 3, 6, 1, 4, 1, 1722, 12], [(2, "HASHALGS")]⟩,
    ⟨[1, 3, 6, 1, 4, 1, 1722, 12, 2], [(1, "BLAKE2B"), (2, "BLAKE2S")]⟩,
    ⟨[1, 3, 6, 1, 4, 1, 1722, 12, 2, 1],
      [(5, "ID-BLAKE2B160"), (8, "ID-BLAKE2B256"), (12, "ID-BLAKE2B384"),
        (16, "ID-BLAKE2B512")]⟩,
    ⟨[1, 3, 6, 1, 4, 1, 1722, 12, 2, 2],
      [(4, "ID-BLAKE2S128"), (5, "ID-BLAKE2S160"), (7, "ID-BLAKE2S224"),
        (8, "ID-BLAKE2S256")]⟩,
    ⟨[2, 16, 840, 1, 101, 2, 1, 1], [(22, "ID-KEYEXCHANGEALGORITHM")]⟩,
    ⟨[2, 16, 840, 1, 101, 3], [(4, "NISTALGORITHMS")]⟩,
    ⟨[2, 16, 840, 1, 101, 3, 4], [(1, "AES"), (2, "HASHALGS"), (3, "SIGALGS")]⟩,
    ⟨[2, 16, 840, 1, 101, 3, 4, 1],
      [(2, "ID-AES128-CBC"), (5, "ID-AES128-WRAP"), (6, "ID-AES128-GCM"),
        (7, "ID-AES128-CCM"), (22, "ID-AES192-CBC"), (25, "ID-AES192-WRAP"),
        (26, "ID-AES192-GCM"), (27, "ID-AES192-CCM"), (42, "ID-AES256-CBC"),
        (45, "ID-AES256-WRAP"), (46, "ID-AES256-GCM"), (47, "ID-AES256-CCM")]⟩,
    ⟨[2, 16, 840, 1, 101, 3, 4, 2],
      [(1, "ID-SHA256"), (2, "ID-SHA384"), (3, "ID-SHA512"), (4, "ID-SHA224"),
        (7, "ID-SHA3-224"), (8, "ID-SHA3-256"), (9, "ID-SHA3-384"),
        (10, "ID-SHA3-512"), (11, "ID-SHAKE128"), (12, "ID-SHAKE256"),
        (13, "ID-HMACWITHSHA3-224"), (14, "ID-HMACWITHSHA3-256"),
        (15, "ID-HMACWITHSHA3-384"), (16, "ID-HMACWITHSHA3-512"),
        (17, "ID-SHAKE128-LEN"), (18, "ID-SHAKE256-LEN")]⟩,
    ⟨[2, 16, 840, 1, 101, 3, 4, 3],
      [(1, "DSA-WITH-SHA224"), (2, "DSA-WITH-SHA256"),
        (5, "ID-DSA-WITH-SHA3-224"), (6, "ID-DSA-WITH-SHA3-256"),
        (7, "ID-DSA-WITH-SHA3-384"), (8, "ID-DSA-WITH-SHA3-512"),
        (9, "ID-ECDSA-WITH-SHA3-224"), (10, "ID-ECDSA-WITH-SHA3-256"),
        (11, "ID-ECDSA-WITH-SHA3-384"), (12, "ID-ECDSA-WITH-SHA3-512"),
        (13, "ID-RSASSA-PKCS1-V1-5-WITH-SHA3-224"),
        (14, "ID-RSASSA-PKCS1-V1-5-WITH-SHA3-256"),
        (15, "ID-RSASSA-PKCS1-V1-5-WITH-SHA3-384"),
        (16, "ID-RSASSA-PKCS1-V1-5-WITH-SHA3-512")]⟩]

/-- Signed and enveloped messages: kinds of content, attributes of signers, and
key agreement. -/
def messages : List Branch :=
  [⟨[1, 2, 840, 113549, 1, 7],
      [(1, "ID-DATA"), (2, "ID-SIGNEDDATA"), (3, "ID-ENVELOPEDDATA"),
        (5, "ID-DIGESTEDDATA"), (6, "ID-ENCRYPTEDDATA")]⟩,
    ⟨[1, 2, 840, 113549, 1, 9, 16],
      [(0, "ID-MOD"), (1, "ID-CT"), (2, "ID-AA"), (3, "ID-ALG"), (4, "ID-CD"),
        (5, "ID-SPQ"), (6, "ID-CTI"), (7, "ID-TSP"), (8, "ID-SKD"),
        (9, "ID-STI"), (10, "ID-EIT"), (11, "ID-CAP"), (12, "ID-PSKC")]⟩,
    ⟨[1, 2, 840, 113549, 1, 9, 16, 1],
      [(1, "ID-CT-RECEIPT"), (2, "ID-CT-AUTHDATA"), (6, "ID-CT-CONTENTINFO"),
        (9, "ID-CT-COMPRESSEDDATA"), (10, "ID-CT-SCVP-CERTVALREQUEST"),
        (11, "ID-CT-SCVP-CERTVALRESPONSE"), (12, "ID-CT-SCVP-VALPOLREQUEST"),
        (13, "ID-CT-SCVP-VALPOLRESPONSE"), (16, "ID-CT-FIRMWAREPACKAGE"),
        (17, "ID-CT-FIRMWARELOADRECEIPT"), (18, "ID-CT-FIRMWARELOADERROR"),
        (19, "ID-CT-CONTENTCOLLECTION"), (20, "ID-CT-CONTENTWITHATTRS"),
        (21, "ID-CT-ENCKEYWITHID"), (23, "ID-CT-AUTHENVELOPEDDATA")]⟩,
    ⟨[1, 2, 840, 113549, 1, 9, 16, 2],
      [(1, "ID-AA-RECEIPTREQUEST"), (2, "ID-AA-SECURITYLABEL"),
        (3, "ID-AA-MLEXPANDHISTORY"), (4, "ID-AA-CONTENTHINT"),
        (5, "ID-AA-MSGSIGDIGEST"), (7, "ID-AA-CONTENTIDENTIFIER"),
        (9, "ID-AA-EQUIVALENTLABELS"), (10, "ID-AA-CONTENTREFERENCE"),
        (11, "ID-AA-ENCRYPKEYPREF"), (12, "ID-AA-SIGNINGCERTIFICATE"),
        (34, "ID-AA-CMC-UNSIGNEDDATA"), (35, "ID-AA-FIRMWAREPACKAGEID"),
        (36, "ID-AA-TARGETHARDWAREIDS"), (37, "ID-AA-DECRYPTKEYID"),
        (38, "ID-AA-IMPLCRYPTOALGS"), (39, "ID-AA-WRAPPEDFIRMWAREKEY"),
        (40, "ID-AA-COMMUNITYIDENTIFIERS"),
        (41, "ID-AA-FWPKGMESSAGEDIGEST"), (42, "ID-AA-FIRMWAREPACKAGEINFO"),
        (43, "ID-AA-IMPLCOMPRESSALGS"), (46, "ID-AA-BINARYSIGNINGTIME"),
        (47, "ID-AA-SIGNINGCERTIFICATEV2"), (49, "ID-AA-ER-INTERNAL"),
        (50, "ID-AA-ER-EXTERNAL"), (51, "ID-AA-MULTIPLESIGNATURES")]⟩,
    ⟨[1, 2, 840, 113549, 1, 9, 16, 3],
      [(5, "ID-ALG-ESDH"), (6, "ID-ALG-CMS3DESWRAP"), (7, "ID-ALG-CMSRC2WRAP"),
        (8, "ID-ALG-ZLIBCOMPRESS"), (9, "ID-ALG-PWRI-KEK"),
        (10, "ID-ALG-SSDH")]⟩,
    ⟨[1, 2, 840, 113549, 1, 9, 16, 8],
      [(1, "ID-SKD-GLUSEKEK"), (2, "ID-SKD-GLDELETE"),
        (3, "ID-SKD-GLADDMEMBER"), (4, "ID-SKD-GLDELETEMEMBER"),
        (5, "ID-SKD-GLREKEY"), (6, "ID-SKD-GLADDOWNER"),
        (7, "ID-SKD-GLREMOVEOWNER"), (8, "ID-SKD-GLKEYCOMPROMISE"),
        (9, "ID-SKD-GLKREFRESH"), (11, "ID-SKD-GLAQUERYREQUEST"),
        (12, "ID-SKD-GLAQUERYRESPONSE"), (13, "ID-SKD-GLPROVIDECERT"),
        (14, "ID-SKD-GLMANAGECERT"), (15, "ID-SKD-GLKEY")]⟩,
    ⟨[1, 2, 840, 113549, 1, 9, 16, 11], [(1, "ID-CAP-PREFERBINARYINSIDE")]⟩,
    ⟨[1, 3, 6, 1, 5, 5], [(11, "LTANS")]⟩,
    ⟨[1, 3, 6, 1, 5, 5, 11, 2], [(1, "ID-EM-ENC")]⟩]

/-- Every identifier with a short name. -/
def shortNames : List (Oid × String) :=
  (directoryTypes ++ pilotTypes ++ serviceTypes ++ classes ++ tables ++
    policySchema ++ serviceSchemas ++ extensions ++ enrollment ++ algorithms ++
    messages).flatMap Branch.entries

/-- The short name of an identifier. Its contents decide: one with a padded arc
has none. -/
def shortName? (oid : Oid) : Option String :=
  (shortNames.find? fun entry => entry.1 = oid).map Prod.snd

end TrustPath.Oid
